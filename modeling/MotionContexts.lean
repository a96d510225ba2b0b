import MotionContexts.Table
import MotionContexts.KeyedList
import MotionContexts.Text.Blank
import MotionContexts.Text.Quoted
import MotionContexts.Text.Utf8
import MotionContexts.Number.Literal
import MotionContexts.Datum
import MotionContexts.Json.Value
import MotionContexts.Request.Json
import MotionContexts.ErrorCode.Json
import MotionContexts.Limits.Override
import MotionContexts.Storage
import MotionContexts.ManagerDocument
import MotionContexts.Representation
import MotionContexts.Manager
import MotionContexts.Toml.Document
import MotionContexts.Proofs.PlannerPool.Saving
import MotionContexts.Proofs.Manager.Freshness
import MotionContexts.Proofs.Manager.PlannerSpace
import MotionContexts.Proofs.PlannerPool.Instances
import MotionContexts.Proofs.ContextCache.Sharing
import MotionContexts.Proofs.Manager.StorageIndependence
import MotionContexts.Proofs.Manager.Restart
import MotionContexts.Proofs.Manager.Groups
import MotionContexts.Proofs.Manager.Retrying
import MotionContexts.Proofs.Manager.PlannerIdentifier
import MotionContexts.Proofs.Manager.EntryPoints
import MotionContexts.Proofs.Manager.Document
import MotionContexts.Proofs.Manager.NewContext
import MotionContexts.Proofs.Manager.Commuting
import MotionContexts.Proofs.Manager.Verdicts
import MotionContexts.Proofs.PlannerPool.Seeding
import MotionContexts.Proofs.PlannerPool.Accounting
import MotionContexts.Proofs.Representation.Selection
import MotionContexts.Proofs.Representation.BuiltIn
import MotionContexts.Proofs.PlannerData.Envelope
import MotionContexts.Proofs.Request.Spelling
import MotionContexts.Proofs.Manager.HandOver
import MotionContexts.Proofs.Request.Name
import MotionContexts.Proofs.Limits
import MotionContexts.Proofs.Storage.LastWrite
import MotionContexts.Proofs.Storage.Atomic
import MotionContexts.Proofs.Retention
