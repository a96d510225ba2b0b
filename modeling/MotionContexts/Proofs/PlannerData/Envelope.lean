/-
# The text of an envelope

What a planner data file holds can be said without any token: the planner type between quotes, and
the bytes of the graph as decimal numbers with commas between them.  Nothing is written besides, no
blank and no line end.

In the planner type a character stands for itself, unless it is the quote or the backslash or below
U+0020.  No other character is escaped, however many bytes it takes.

Main statements:
* `Digit.map_toChar_ofNat`, numbers are written as everywhere;
* `Json.escapeChar_eq_singleton_iff`, which characters stand for themselves;
* `compact_toJson`, the text of an envelope;
* `envelope_lossless`, the text, and the file that it is stored in, are read as the data again.
-/
import Mathlib.Tactic.SplitIfs
import MotionContexts.Proofs.Storage

namespace MotionContexts

/-! ## 1. Numbers -/

namespace Digit

theorem toChar_eq_digitChar : ∀ d : Digit, d.toChar = d.val.digitChar := by decide

/-- **The digits of a number** are the ones that it is written with everywhere. -/
theorem map_toChar_ofNat (n : Nat) : (ofNat n).map toChar = Nat.toDigits 10 n := by
  induction n using Nat.strongRecOn with
  | ind n ih =>
    rw [ofNat, Nat.toDigits_eq_if (by decide)]
    split
    · rename_i hn
      rw [List.map_singleton, toChar_eq_digitChar]
      simp only [Nat.mod_eq_of_lt hn]
    · rw [List.map_append, ih (n / 10) (by omega), List.map_singleton, toChar_eq_digitChar]

end Digit

namespace Json

theorem Numeral.toChars_ofNat (n : Nat) : (Numeral.ofNat n).toChars = Nat.toDigits 10 n := by
  simp [Numeral.toChars, Numeral.ofNat, Digit.map_toChar_ofNat]

/-! ## 2. Texts -/

/-- **A character stands for itself** between quotes exactly if it is not the quote, not the
backslash and not below U+0020. -/
theorem escapeChar_eq_singleton_iff (c : Char) :
    escapeChar c = [c] ↔ c ≠ '"' ∧ c ≠ '\\' ∧ 0x20 ≤ c.toNat := by
  unfold escapeChar
  split_ifs with hquote hbackslash hb hf hn hr ht hcontrol
  · simp [hquote]
  · simp [hbackslash]
  · simp [hb]
  · simp [hf]
  · simp [hn]
  · simp [hr]
  · simp [ht]
  · simp [hcontrol]
  · simp [hquote, hbackslash, Nat.le_of_not_lt hcontrol]

/-! ## 3. Arrays -/

/-- The characters of a value, without any blank. -/
def chars (v : Json) : List Char := v.tokens.flatMap Token.chars

theorem chars_itemTokens (vs : List Json) :
    (itemTokens vs).flatMap Token.chars = vs.flatMap (fun v => ',' :: v.chars) ++ [']'] := by
  induction vs with
  | nil => rfl
  | cons v vs ih =>
    rw [itemTokens, List.flatMap_cons, List.flatMap_append, ih, List.flatMap_cons,
      List.append_assoc]
    rfl

/-- **An array is written** as its items with commas between them. -/
theorem chars_array (vs : List Json) :
    (array vs).chars = '[' :: [','].intercalate (vs.map chars) ++ [']'] := by
  have hlater : ∀ (v : Json) (vs : List Json),
      [','].intercalate ((v :: vs).map chars) = v.chars ++ vs.flatMap fun v => ',' :: v.chars := by
    intro v vs
    induction vs generalizing v with
    | nil => simp
    | cons u us ih =>
      rw [List.map_cons, List.map_cons, List.intercalate_cons_cons, ← List.map_cons, ih,
        List.flatMap_cons]
      simp
  cases vs with
  | nil => rfl
  | cons v vs =>
    rw [hlater, chars, tokens, List.flatMap_cons, List.flatMap_append, chars_itemTokens]
    simp [Token.chars, chars]

end Json

/-! ## 4. Envelopes -/

namespace PlannerData

/-- **The text of an envelope.** -/
theorem compact_toJson (d : PlannerData) :
    d.toJson.compact =
      "\x7b\"planner_type\":\"" ++ String.ofList (d.plannerType.toList.flatMap Json.escapeChar) ++
        "\",\"graph\":[" ++ ",".intercalate (d.graph.map fun b => b.toNat.repr) ++ "]\x7d" := by
  let items : List Json := d.graph.map fun b => .ofNat b.toNat
  have hnumbers : items.map Json.chars = (d.graph.map fun b => b.toNat.repr).map String.toList := by
    rw [List.map_map, List.map_map]
    refine List.map_congr_left fun b _ => ?_
    show (Json.Numeral.ofNat b.toNat).toChars ++ [] = b.toNat.repr.toList
    rw [List.append_nil, Json.Numeral.toChars_ofNat, Nat.toList_repr]
  have hgraph := Json.chars_array items
  rw [hnumbers] at hgraph
  have htokens : d.toJson.tokens = [.beginObject, .text (some "planner_type"), .colon,
      .text (some d.plannerType), .comma, .text (some "graph"), .colon] ++
        ((Json.array items).tokens ++ [.endObject]) := rfl
  -- the characters in front of the planner type, and those between it and the graph
  have hbefore : "\x7b\"planner_type\":\"".toList =
      '\x7b' :: Json.quote (some "planner_type") ++ [':', '"'] := rfl
  have hbetween : "\",\"graph\":[".toList =
      '"' :: ',' :: Json.quote (some "graph") ++ [':', '['] := rfl
  have htype : Json.quote (some d.plannerType) =
      '"' :: (d.plannerType.toList.flatMap Json.escapeChar ++ ['"']) := rfl
  apply String.toList_injective
  rw [Json.compact, htokens, List.flatMap_append, List.flatMap_append, String.toList_ofList]
  change _ ++ ((Json.array items).chars ++ _) = _
  rw [hgraph]
  simp only [String.toList_append, hbefore, hbetween, String.toList_ofList,
    String.toList_intercalate]
  simp [Json.Token.chars, htype]

/-- **Envelopes lose nothing.**  Whatever the planner type and the graph:
* what the text of the data is read as is the data;
* the text is compact, its fields are in order, the graph is an array of decimal numbers, and in
  the planner type exactly the quote, the backslash and what is below U+0020 is escaped;
* a file that the data was stored in holds this text and nothing else, and the data is loaded from
  it again. -/
theorem envelope_lossless (d : PlannerData) :
    (Json.parse? d.toJson.compact).bind ofJson? = some d ∧
    d.toJson.compact =
      "\x7b\"planner_type\":\"" ++ String.ofList (d.plannerType.toList.flatMap Json.escapeChar) ++
        "\",\"graph\":[" ++ ",".intercalate (d.graph.map fun b => b.toNat.repr) ++ "]\x7d" ∧
    (∀ c, Json.escapeChar c = [c] ↔ c ≠ '"' ∧ c ≠ '\\' ∧ 0x20 ≤ c.toNat) ∧
    ∀ (working : Place) (p : Path) (t : FileTree working), (Storage.files.store d p t).1 = .ok () →
      (Storage.files.store d p t).2.open? p = .ok (.file (Utf8.encode d.toJson.compact)) ∧
      Storage.files.load p (Storage.files.store d p t).2 = .ok d := by
  refine ⟨?text, compact_toJson d, Json.escapeChar_eq_singleton_iff,
    fun working p t hok => ⟨?file, ?load⟩⟩
  case text =>
    rw [Json.parse?, Json.ofSymbols?_compact (lasting_toJson d)]
    exact ofJson?_toJson d
  case file =>
    obtain ⟨result, hs, hresult⟩ := Storage.stores_files d p t
    obtain rfl := hresult hok
    exact hs.open?
  case load => exact (Storage.keeps_files working p).load_store hok

/-- A planner type of a quote, a backslash, a control and a character outside the basic plane, with
the least and the greatest byte for a graph, is stored in a file. -/
theorem envelope_lossless_escaped :
    let d : PlannerData := ⟨"\"\\\x01\n𝄞", [0, 255]⟩
    let p : Path := ⟨"arm.graph"⟩
    let t : FileTree ["work"] := .empty
    (Storage.files.store d p t).1 = .ok () ∧
      Storage.files.load p (Storage.files.store d p t).2 = .ok d := by
  intro d p t
  have hdone : (Storage.files.store d p t).1.toOption = some () := by decide +kernel
  have hok : (Storage.files.store d p t).1 = .ok () := by
    cases h : (Storage.files.store d p t).1 with
    | ok u => rfl
    | error e =>
      rw [h] at hdone
      cases hdone
  exact ⟨hok, ((envelope_lossless d).2.2.2 ["work"] p t hok).2⟩

end PlannerData

end MotionContexts
