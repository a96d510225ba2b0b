/-
# What is written as JSON is read again

A value is written token by token and without any blank.  Two readers stand against this: the
scanner, which has to find the same tokens again although nothing separates them, and the machine
with its stack of open brackets.

Brackets, words and texts end by themselves.  A NUMBER does not, so what comes behind one matters:
it has to be a character that no number has.  Behind a value there is a comma, an end or nothing,
and this is what the induction carries along.

Only two kinds of value are lost in writing: texts that are not made of characters, and numbers
that no digits write.  `Json.lasting` excludes them.

Main statements:
* `Numeral.ofChars?_toChars`, a number that has its digits is read as itself;
* `read_tokens`, the machine takes the tokens of ANY value for this value;
* `ofSymbols?_compact`, a lasting value is what its text is read as.
-/
import MotionContexts.Json.Value

namespace MotionContexts

/-! ## 1. Digits -/

namespace Digit

/-- Digits are read until something else comes. -/
theorem span_append (ds : List Digit) {rest : List Char}
    (hrest : ∀ c r, rest = c :: r → ofChar? c = none) :
    span (ds.map toChar ++ rest) = (ds, rest) := by
  induction ds with
  | nil =>
    cases rest with
    | nil => rfl
    | cons c r => simp [span, hrest c r rfl]
  | cons d ds ih => simp [span, ofChar?_toChar, ih]

/-- The first digit of a number that is not zero is not zero. -/
theorem ofNat_eq_cons (n : Nat) : ∃ d ds, ofNat n = d :: ds ∧ (0 < n → d.val ≠ 0) := by
  induction n using Nat.strongRecOn with
  | ind n ih =>
    unfold ofNat
    split
    · refine ⟨_, _, rfl, fun hn => ?_⟩
      show n % 10 ≠ 0
      omega
    · obtain ⟨d, ds, hd, hlead⟩ := ih (n / 10) (by omega)
      rw [hd]
      exact ⟨d, _, List.cons_append, fun _ => hlead (by omega)⟩

/-- A digit is not a sign. -/
theorem toChar_ne : ∀ d : Digit, d.toChar ≠ '-' ∧ d.toChar ≠ '+' := by decide

end Digit

namespace Json

/-! ## 2. Numbers -/

namespace Numeral

/-- The number has its digits: before the point as a number has them, and at least one behind the
point and in the exponent, where there is one. -/
def isValid (n : Numeral) : Bool :=
  isWhole n.whole && n.fraction.all (!·.isEmpty) && n.exponent.all (!·.2.isEmpty)

theorem isValid_ofNat (n : Nat) : (ofNat n).isValid = true := by
  obtain ⟨d, ds, hd, hlead⟩ := Digit.ofNat_eq_cons n
  have hwhole : isWhole (Digit.ofNat n) = true := by
    rcases Nat.eq_zero_or_pos n with rfl | hn
    · simp [Digit.ofNat, isWhole]
    · rw [hd]
      cases ds with
      | nil => rfl
      | cons e es => simpa [isWhole] using hlead hn
  simp [isValid, ofNat, hwhole]

/-- The characters of a fraction, with its point. -/
def fractionChars : Option (List Digit) → List Char
  | some ds => '.' :: ds.map Digit.toChar
  | none => []

/-- The characters of an exponent, with its letter. -/
def exponentChars : Option (Bool × List Digit) → List Char
  | some (negative, ds) => 'e' :: (if negative then ['-'] else []) ++ ds.map Digit.toChar
  | none => []

theorem toChars_eq (n : Numeral) :
    n.toChars = (if n.negative then ['-'] else []) ++ (n.whole.map Digit.toChar ++
      (fractionChars n.fraction ++ exponentChars n.exponent)) := by
  unfold toChars
  rw [List.append_assoc, List.append_assoc]
  rfl

/-- The sign of an exponent is read as itself, since a digit follows. -/
theorem exponentSign_append (negative : Bool) (d : Digit) (s : List Char) :
    exponentSign ((if negative then ['-'] else []) ++ d.toChar :: s) =
      (negative, d.toChar :: s) := by
  cases negative
  · obtain ⟨hminus, hplus⟩ := Digit.toChar_ne d
    show exponentSign (d.toChar :: s) = (false, d.toChar :: s)
    generalize d.toChar = c at hminus hplus
    rw [exponentSign.eq_def]
    split
    · rename_i h
      exact absurd (List.cons.inj h).1 hminus
    · rename_i h
      exact absurd (List.cons.inj h).1 hplus
    · rfl
  · rfl

theorem exponent?_exponentChars {exponent : Option (Bool × List Digit)}
    (h : exponent.all (!·.2.isEmpty) = true) :
    exponent? (exponentChars exponent) = some exponent := by
  rcases exponent with _ | ⟨negative, _ | ⟨d, ds⟩⟩
  · rfl
  · simp at h
  · have hnone : ∀ c r, ([] : List Char) = c :: r → Digit.ofChar? c = none := by simp
    have hspan := Digit.span_append (d :: ds) hnone
    rw [List.append_nil, List.map_cons] at hspan
    rw [exponentChars, List.cons_append, List.map_cons, exponent?, if_pos (.inl rfl),
      exponentSign_append]
    dsimp only
    rw [hspan]

theorem fraction?_fractionChars {fraction : Option (List Digit)} {rest : List Char}
    (h : fraction.all (!·.isEmpty) = true)
    (hrest : ∀ c r, rest = c :: r → Digit.ofChar? c = none ∧ c ≠ '.') :
    fraction? (fractionChars fraction ++ rest) = some (fraction, rest) := by
  rcases fraction with _ | _ | ⟨d, ds⟩
  · show fraction? rest = some (none, rest)
    rw [fraction?.eq_def]
    split
    · rename_i s
      exact absurd rfl (hrest _ s rfl).2
    · rfl
  · simp at h
  · have hspan := Digit.span_append (d :: ds) fun c r hr => (hrest c r hr).1
    rw [List.map_cons] at hspan
    rw [fractionChars, List.cons_append, List.map_cons, fraction?, hspan]

/-- What stands behind the whole digits starts with no digit, and what stands behind the fraction
does not start with a point either. -/
theorem head_exponentChars {exponent : Option (Bool × List Digit)} {c : Char} {r : List Char}
    (h : exponentChars exponent = c :: r) : c = 'e' := by
  rcases exponent with _ | ⟨negative, ds⟩
  · cases h
  · exact (List.cons.inj h).1.symm

theorem head_fractionChars {fraction : Option (List Digit)}
    {exponent : Option (Bool × List Digit)} {c : Char} {r : List Char}
    (h : fractionChars fraction ++ exponentChars exponent = c :: r) : c = '.' ∨ c = 'e' := by
  rcases fraction with _ | ds
  · exact .inr (head_exponentChars h)
  · exact .inl (List.cons.inj h).1.symm

/-- **A number that has its digits is read as itself.** -/
theorem ofChars?_toChars {n : Numeral} (h : n.isValid = true) : ofChars? n.toChars = some n := by
  obtain ⟨negative, whole, fraction, exponent⟩ := n
  obtain ⟨⟨hwhole, hfraction⟩, hexponent⟩ : (isWhole whole = true ∧ _) ∧ _ := by
    simpa only [isValid, Bool.and_eq_true] using h
  have hbehind : ∀ c r, fractionChars fraction ++ exponentChars exponent = c :: r →
      Digit.ofChar? c = none := fun c r hr => by
    rcases head_fractionChars hr with rfl | rfl <;> rfl
  have hpower : ∀ c r, exponentChars exponent = c :: r → Digit.ofChar? c = none ∧ c ≠ '.' :=
    fun c r hr => by
      rw [head_exponentChars hr]
      exact ⟨rfl, by decide⟩
  have hspan := Digit.span_append whole hbehind
  have hfrac := fraction?_fractionChars hfraction hpower
  obtain ⟨d, ds, rfl⟩ : ∃ d ds, whole = d :: ds := by
    cases whole with
    | nil => cases hwhole
    | cons d ds => exact ⟨d, ds, rfl⟩
  have hexp := exponent?_exponentChars hexponent
  rw [toChars_eq]
  cases negative
  · have hd := (Digit.toChar_ne d).1
    simp only [List.map_cons, List.cons_append] at hspan
    simp only [Bool.false_eq_true, if_false, List.nil_append, List.map_cons, List.cons_append]
    rw [ofChars?.eq_def]
    split
    rename_i hs
    split at hs
    · rename_i he
      exact absurd (List.cons.inj he).1 hd
    · cases hs
      simp only [hspan, hwhole, if_true, hfrac, hexp, Option.map_some]
  · simp only [if_true, ofChars?, List.cons_append, List.nil_append, hspan, hwhole, hfrac, hexp,
      Option.map_some]

end Numeral

/-! ## 3. The machine with a stack -/

/-- Where the first item of an array may stand, a value is begun like everywhere. -/
theorem read_firstItem (v : Json) (fs : List Frame) (ts : List Token) :
    read .firstItem (.array [] :: fs) (v.tokens ++ ts) =
      read .value (.array [] :: fs) (v.tokens ++ ts) := by
  rcases v with _ | b | n | s | (_ | ⟨v, vs⟩) | (_ | ⟨⟨k, v⟩, fields⟩) <;> simp [tokens] <;> rfl

mutual

/-- **The machine takes the tokens of a value for this value.** -/
theorem read_tokens (v : Json) (fs : List Frame) (ts : List Token) :
    read .value fs (v.tokens ++ ts) = read (.after v) fs ts := by
  match v with
  | .null => rfl
  | .bool b => rfl
  | .number n => rfl
  | .text s => rfl
  | .array [] => rfl
  | .array (v :: vs) =>
    have hv := read_tokens v (.array [] :: fs) (itemTokens vs ++ ts)
    have hvs := read_itemTokens vs v [] fs ts
    show read .firstItem (.array [] :: fs) (v.tokens ++ itemTokens vs ++ ts) = _
    rw [List.append_assoc, read_firstItem, hv, hvs]
    rfl
  | .object [] => rfl
  | .object ((k, v) :: fields) =>
    have hv := read_tokens v (.field [] k :: fs) (fieldTokens fields ++ ts)
    have hfields := read_fieldTokens fields k v [] fs ts
    show read .value (.field [] k :: fs) (v.tokens ++ fieldTokens fields ++ ts) = _
    rw [List.append_assoc, hv, hfields]
    rfl

/-- Items behind the first one are put behind it. -/
theorem read_itemTokens (vs : List Json) (v : Json) (items : List Json) (fs : List Frame)
    (ts : List Token) :
    read (.after v) (.array items :: fs) (itemTokens vs ++ ts) =
      read (.after (.array (items.reverse ++ v :: vs))) fs ts := by
  match vs with
  | [] =>
    show read (.after (.array (v :: items).reverse)) fs ts = _
    rw [List.reverse_cons]
  | u :: us =>
    have hu := read_tokens u (.array (v :: items) :: fs) (itemTokens us ++ ts)
    have hus := read_itemTokens us u (v :: items) fs ts
    show read .value (.array (v :: items) :: fs) (u.tokens ++ itemTokens us ++ ts) = _
    rw [List.append_assoc, hu, hus, List.reverse_cons, List.append_assoc]
    rfl

/-- Fields behind the first one are put behind it. -/
theorem read_fieldTokens (later : List (Option String × Json)) (k : Option String) (v : Json)
    (fields : List (Option String × Json)) (fs : List Frame) (ts : List Token) :
    read (.after v) (.field fields k :: fs) (fieldTokens later ++ ts) =
      read (.after (.object (fields.reverse ++ (k, v) :: later))) fs ts := by
  match later with
  | [] =>
    show read (.after (.object ((k, v) :: fields).reverse)) fs ts = _
    rw [List.reverse_cons]
  | (l, u) :: us =>
    have hu := read_tokens u (.field ((k, v) :: fields) l :: fs) (fieldTokens us ++ ts)
    have hus := read_fieldTokens us l u ((k, v) :: fields) fs ts
    show read .value (.field ((k, v) :: fields) l :: fs) (u.tokens ++ fieldTokens us ++ ts) = _
    rw [List.append_assoc, hu, hus, List.reverse_cons, List.append_assoc]
    rfl

end

/-! ## 4. The scanner -/

/-- A symbol that ends no token. -/
theorem scan_silent {s s' : Scan} {x : Utf8.Symbol} (h : scanStep s x = some ([], s'))
    (rest : List Utf8.Symbol) : scan s (x :: rest) = scan s' rest := by
  rw [scan, h]
  exact congrFun Option.map_id (scan s' rest)

/-- A symbol that ends a token. -/
theorem scan_emits {s s' : Scan} {x : Utf8.Symbol} {t : Token} (h : scanStep s x = some ([t], s'))
    (rest : List Utf8.Symbol) : scan s (x :: rest) = (scan s' rest).map (t :: ·) := by
  rw [scan, h]
  rfl

/-- What comes next does not go on with a number. -/
def EndsNumber (rest : List Utf8.Symbol) : Prop :=
  ∀ c r, rest = some c :: r → isNumberChar c = false

/-- The characters of a number are read one after the other. -/
theorem scan_number_append {cs : List Char} (h : ∀ c ∈ cs, isNumberChar c = true)
    (seen : List Char) (rest : List Utf8.Symbol) :
    scan (.number seen) (cs.map some ++ rest) = scan (.number (cs.reverse ++ seen)) rest := by
  induction cs generalizing seen with
  | nil => rfl
  | cons c cs ih =>
    have hc := h c (List.mem_cons_self ..)
    have hcs := ih (fun d hd => h d (List.mem_cons_of_mem _ hd)) (c :: seen)
    have hstep : scanStep (.number seen) (some c) = some ([], .number (c :: seen)) := by
      rw [scanStep, if_pos hc]
    rw [List.map_cons, List.cons_append, scan_silent hstep, List.reverse_cons, List.append_assoc]
    exact hcs

/-- Behind a number the scanner goes on as between tokens. -/
theorem scan_number {n : Numeral} {seen : List Char} {rest : List Utf8.Symbol}
    (hn : Numeral.ofChars? seen.reverse = some n) (hrest : EndsNumber rest) :
    scan (.number seen) rest = (scan .between rest).map (.number n :: ·) := by
  match rest with
  | [] => simp [scan, hn]
  | none :: r => rfl
  | some c :: r =>
    have hc := hrest c r rfl
    simp only [scan, scanStep, hc, hn, Bool.false_eq_true, if_false, Option.bind_some]
    cases startToken c with
    | none => rfl
    | some t =>
      show ((scan t.2 r).map (.number n :: t.1 ++ ·)) = ((scan t.2 r).map (t.1 ++ ·)).map _
      rw [Option.map_map]
      rfl

theorem startToken_digit : ∀ d : Digit, startToken d.toChar = some ([], .number [d.toChar]) := by
  decide

theorem isNumberChar_digit : ∀ d : Digit, isNumberChar d.toChar = true := by decide

theorem isNumberChar_of_mem {n : Numeral} {c : Char} (h : c ∈ n.toChars) :
    isNumberChar c = true := by
  have hdigits : ∀ ds : List Digit, c ∈ ds.map Digit.toChar → isNumberChar c = true := by
    intro ds hc
    obtain ⟨d, -, rfl⟩ := List.mem_map.mp hc
    exact isNumberChar_digit d
  have hsign : ∀ b : Bool, c ∈ (if b then ['-'] else []) → isNumberChar c = true := by
    intro b hc
    cases b
    · cases hc
    · rw [List.mem_singleton.mp hc]
      rfl
  rw [Numeral.toChars_eq, List.mem_append, List.mem_append, List.mem_append] at h
  rcases h with h | h | h | h
  · exact hsign _ h
  · exact hdigits _ h
  · rcases hf : n.fraction with _ | ds <;> rw [hf] at h
    · cases h
    · rcases List.mem_cons.mp h with rfl | h
      · rfl
      · exact hdigits _ h
  · rcases he : n.exponent with _ | ⟨negative, ds⟩ <;> rw [he] at h
    · cases h
    · rw [Numeral.exponentChars, List.cons_append, List.mem_cons, List.mem_append] at h
      rcases h with rfl | h | h
      · rfl
      · exact hsign _ h
      · exact hdigits _ h

/-- A number starts with its sign or a digit. -/
theorem startToken_toChars {n : Numeral} (h : n.isValid = true) :
    ∃ c cs, n.toChars = c :: cs ∧ startToken c = some ([], .number [c]) := by
  rw [Numeral.toChars_eq]
  cases hnegative : n.negative
  · rcases hw : n.whole with _ | ⟨d, ds⟩
    · simp [Numeral.isValid, hw, Numeral.isWhole] at h
    · exact ⟨d.toChar, _, rfl, startToken_digit d⟩
  · exact ⟨'-', _, rfl, rfl⟩

/-- A number ends where something else comes. -/
theorem scan_toChars {n : Numeral} (hn : n.isValid = true) {rest : List Utf8.Symbol}
    (hrest : EndsNumber rest) :
    scan .between (n.toChars.map some ++ rest) = (scan .between rest).map (.number n :: ·) := by
  obtain ⟨c, cs, hchars, hstart⟩ := startToken_toChars hn
  have hread : Numeral.ofChars? (cs.reverse ++ [c]).reverse = some n := by
    rw [List.reverse_append, List.reverse_reverse, List.reverse_singleton, List.singleton_append,
      ← hchars, Numeral.ofChars?_toChars hn]
  have hcs : ∀ d ∈ cs, isNumberChar d = true := fun d hd =>
    isNumberChar_of_mem (hchars ▸ List.mem_cons_of_mem c hd)
  have hstep : scanStep .between (some c) = some ([], .number [c]) := hstart
  rw [hchars, List.map_cons, List.cons_append, scan_silent hstep, scan_number_append hcs,
    scan_number hread hrest]

/-! ### Texts -/

theorem hexDigit?_hexChar : ∀ n < 16, hexDigit? (hexChar n) = some n := by decide

theorem scan_shortEscape {l c : Char} (hl : l ≠ 'u') (h : shortEscape? l = some c)
    (seen : List Unit16) (rest : List Utf8.Symbol) :
    scan (.text seen) (some '\\' :: some l :: rest) = scan (.text (some c.toNat :: seen)) rest := by
  have hstart : scanStep (.text seen) (some '\\') = some ([], .escape seen) := rfl
  have hletter : scanStep (.escape seen) (some l) = some ([], .text (some c.toNat :: seen)) := by
    rw [scanStep, if_neg hl, h, Option.map_some]
  rw [scan_silent hstart, scan_silent hletter]

/-- An escape by number is read digit by digit. -/
theorem scan_codeEscape {a b c d : Char} {i j k l : Nat} (ha : hexDigit? a = some i)
    (hb : hexDigit? b = some j) (hc : hexDigit? c = some k) (hd : hexDigit? d = some l)
    (seen : List Unit16) (rest : List Utf8.Symbol) :
    scan (.text seen) (some '\\' :: some 'u' :: some a :: some b :: some c :: some d :: rest) =
      scan (.text (some (16 * (16 * (16 * (16 * 0 + i) + j) + k) + l) :: seen)) rest := by
  have hstart : scanStep (.text seen) (some '\\') = some ([], .escape seen) := rfl
  have hletter : scanStep (.escape seen) (some 'u') = some ([], .code seen 0 4) := rfl
  have hdigit : ∀ {x : Char} {n value owed : Nat}, hexDigit? x = some n → 1 < owed →
      scanStep (.code seen value owed) (some x) =
        some ([], .code seen (16 * value + n) (owed - 1)) := by
    intro x n value owed hx howed
    rw [scanStep, hx, Option.map_some, if_neg (by omega)]
  have hlast : ∀ {value : Nat}, scanStep (.code seen value 1) (some d) =
      some ([], .text (some (16 * value + l) :: seen)) := by
    intro value
    rw [scanStep, hd, Option.map_some, if_pos (Nat.le_refl 1)]
  rw [scan_silent hstart, scan_silent hletter, scan_silent (hdigit ha (by decide)),
    scan_silent (hdigit hb (by decide)), scan_silent (hdigit hc (by decide)), scan_silent hlast]

/-- A character between quotes is read as itself, escaped or not. -/
theorem scan_escapeChar (c : Char) (seen : List Unit16) (rest : List Utf8.Symbol) :
    scan (.text seen) ((escapeChar c).map some ++ rest) =
      scan (.text (some c.toNat :: seen)) rest := by
  unfold escapeChar
  split
  · subst c; exact scan_shortEscape (by decide) rfl seen rest
  split
  · subst c; exact scan_shortEscape (by decide) rfl seen rest
  split
  · subst c; exact scan_shortEscape (by decide) rfl seen rest
  split
  · subst c; exact scan_shortEscape (by decide) rfl seen rest
  split
  · subst c; exact scan_shortEscape (by decide) rfl seen rest
  split
  · subst c; exact scan_shortEscape (by decide) rfl seen rest
  split
  · subst c; exact scan_shortEscape (by decide) rfl seen rest
  split
  · rename_i hcontrol
    have hhigh := hexDigit?_hexChar (c.toNat / 16) (by omega)
    have hlow := hexDigit?_hexChar (c.toNat % 16) (by omega)
    have hzero : hexDigit? '0' = some 0 := rfl
    have hcode := scan_codeEscape hzero hzero hhigh hlow seen rest
    have hvalue : 16 * (16 * (16 * (16 * 0 + 0) + 0) + c.toNat / 16) + c.toNat % 16 = c.toNat := by
      omega
    rwa [hvalue] at hcode
  · rename_i hquote hbackslash _ _ _ _ _ hcontrol
    have hstep : scanStep (.text seen) (some c) = some ([], .text (some c.toNat :: seen)) := by
      rw [scanStep, if_neg hquote, if_neg hbackslash, if_neg hcontrol]
    exact scan_silent hstep rest

theorem scan_quoted (cs : List Char) (seen : List Unit16) (rest : List Utf8.Symbol) :
    scan (.text seen) ((cs.flatMap escapeChar).map some ++ rest) =
      scan (.text ((cs.map fun c => some c.toNat).reverse ++ seen)) rest := by
  induction cs generalizing seen with
  | nil => rfl
  | cons c cs ih =>
    rw [List.flatMap_cons, List.map_append, List.append_assoc, scan_escapeChar, ih, List.map_cons,
      List.reverse_cons, List.append_assoc]
    rfl

/-- No character is half of a surrogate pair. -/
theorem characters?_map (cs : List Char) :
    characters? (cs.map fun c => some c.toNat) = some cs := by
  have hhalf : ∀ c : Char, isHigh c.toNat = false ∧ isLow c.toNat = false := by
    intro c
    have hc : c.toNat < 0xD800 ∨ 0xDFFF < c.toNat ∧ c.toNat < 0x110000 := c.valid
    simp [isHigh, isLow]
    omega
  induction cs with
  | nil => rfl
  | cons c cs ih =>
    obtain ⟨hhigh, hlow⟩ := hhalf c
    cases cs with
    | nil => simp [characters?, hhigh, hlow]
    | cons d ds =>
      rw [List.map_cons] at ih
      simp [characters?, hhigh, hlow, ih]

theorem textToken_map (cs : List Char) :
    textToken (cs.map fun c => some c.toNat).reverse = .text (some (String.ofList cs)) := by
  rw [textToken, List.reverse_reverse, characters?_map, Option.map_some]

/-- A text ends at its second quote. -/
theorem scan_text (s : String) (rest : List Utf8.Symbol) :
    scan .between ((quote (some s)).map some ++ rest) =
      (scan .between rest).map (.text (some s) :: ·) := by
  have hscan := scan_quoted s.toList [] (some '"' :: rest)
  have hend : ∀ seen, scanStep (.text seen) (some '"') = some ([textToken seen], .between) :=
    fun _ => rfl
  have hstart : scanStep .between (some '"') = some ([], .text []) := rfl
  rw [List.append_nil, scan_emits (hend _), textToken_map, String.ofList_toList] at hscan
  have hquote : (quote (some s)).map some ++ rest =
      some '"' :: ((s.toList.flatMap escapeChar).map some ++ some '"' :: rest) := by
    show ('"' :: s.toList.flatMap escapeChar ++ ['"']).map some ++ rest = _
    simp
  rw [hquote, scan_silent hstart, hscan]

/-! ### Values -/

mutual

/-- A value that its text tells: no text or field name in it lacks characters, and no number lacks
its digits. -/
def lasting : Json → Bool
  | .null => true
  | .bool _ => true
  | .number n => n.isValid
  | .text s => s.isSome
  | .array items => lastingItems items
  | .object fields => lastingFields fields

def lastingItems : List Json → Bool
  | [] => true
  | v :: vs => lasting v && lastingItems vs

def lastingFields : List (Option String × Json) → Bool
  | [] => true
  | (k, v) :: fs => k.isSome && lasting v && lastingFields fs

end

/-- The symbols of tokens that are written one behind the other. -/
def written (ts : List Token) : List Utf8.Symbol := (ts.flatMap Token.chars).map some

theorem written_append (ts us : List Token) (rest : List Utf8.Symbol) :
    written (ts ++ us) ++ rest = written ts ++ (written us ++ rest) := by
  simp [written]

/-- A word is read letter by letter. -/
theorem scan_word : ∀ (owed : List Char) (t : Token) (rest : List Utf8.Symbol), owed ≠ [] →
    scan (.word owed t) (owed.map some ++ rest) = (scan .between rest).map (t :: ·)
  | [l], t, rest, _ => scan_emits (by simp [scanStep]) rest
  | l :: m :: owed, t, rest, _ => by
    have hstep : scanStep (.word (l :: m :: owed) t) (some l) = some ([], .word (m :: owed) t) := by
      simp [scanStep]
    rw [List.map_cons, List.cons_append, scan_silent hstep]
    exact scan_word (m :: owed) t rest (List.cons_ne_nil _ _)

/-- A token that ends by itself, and can be told from its characters. -/
def Token.closes : Token → Bool
  | .number _ => false
  | .text s => s.isSome
  | _ => true

/-- A token that ends by itself is found again, whatever comes next. -/
theorem scan_closed {t : Token} (ht : t.closes = true) (ts : List Token)
    (rest : List Utf8.Symbol) :
    scan .between (written (t :: ts) ++ rest) =
      (scan .between (written ts ++ rest)).map (t :: ·) := by
  have hsplit : written (t :: ts) ++ rest = t.chars.map some ++ (written ts ++ rest) := by
    simp [written]
  rw [hsplit]
  generalize written ts ++ rest = rest
  cases t with
  | number n => cases ht
  | text s =>
    obtain ⟨s, rfl⟩ := Option.isSome_iff_exists.mp ht
    exact scan_text s rest
  | null => exact (scan_silent rfl _).trans (scan_word _ _ _ (by simp))
  | bool b => cases b <;> exact (scan_silent rfl _).trans (scan_word _ _ _ (by simp))
  | _ => exact scan_emits rfl rest

/-- Behind a value in brackets there is a comma or an end. -/
theorem endsNumber_itemTokens (vs : List Json) (rest : List Utf8.Symbol) :
    EndsNumber (written (itemTokens vs) ++ rest) := by
  intro c r h
  cases vs <;> cases h <;> rfl

theorem endsNumber_fieldTokens (fields : List (Option String × Json)) (rest : List Utf8.Symbol) :
    EndsNumber (written (fieldTokens fields) ++ rest) := by
  intro c r h
  rcases fields with _ | ⟨⟨k, v⟩, fields⟩ <;> cases h <;> rfl

mutual

/-- **The scanner finds the tokens of a lasting value again.** -/
theorem scan_tokens {v : Json} (hv : v.lasting = true) {rest : List Utf8.Symbol}
    (hrest : EndsNumber rest) :
    scan .between (written v.tokens ++ rest) = (scan .between rest).map (v.tokens ++ ·) := by
  match v with
  | .null => exact scan_closed rfl [] rest
  | .bool b => exact scan_closed rfl [] rest
  | .number n =>
    have hscan := scan_toChars hv hrest
    simpa [tokens, written, Token.chars] using hscan
  | .text s => exact scan_closed (t := .text s) hv [] rest
  | .array [] =>
    rw [tokens, scan_closed rfl, scan_closed rfl, Option.map_map]
    rfl
  | .array (v :: vs) =>
    obtain ⟨hv, hvs⟩ := (Bool.and_eq_true ..).mp hv
    have hitems := endsNumber_itemTokens vs rest
    rw [tokens, scan_closed rfl, written_append, scan_tokens hv hitems, scan_itemTokens hvs]
    simp [Function.comp_def]
  | .object [] =>
    rw [tokens, scan_closed rfl, scan_closed rfl, Option.map_map]
    rfl
  | .object ((k, v) :: fields) =>
    obtain ⟨hkv, hfields⟩ := (Bool.and_eq_true ..).mp hv
    obtain ⟨hk, hv⟩ := (Bool.and_eq_true ..).mp hkv
    have hlater := endsNumber_fieldTokens fields rest
    rw [tokens, scan_closed rfl, scan_closed (t := .text k) hk, scan_closed rfl, written_append,
      scan_tokens hv hlater, scan_fieldTokens hfields]
    simp [Function.comp_def]

theorem scan_itemTokens {vs : List Json} (hvs : lastingItems vs = true)
    {rest : List Utf8.Symbol} :
    scan .between (written (itemTokens vs) ++ rest) =
      (scan .between rest).map (itemTokens vs ++ ·) := by
  match vs with
  | [] => exact scan_closed rfl [] rest
  | v :: vs =>
    obtain ⟨hv, hvs⟩ := (Bool.and_eq_true ..).mp hvs
    have hitems := endsNumber_itemTokens vs rest
    rw [itemTokens, scan_closed rfl, written_append, scan_tokens hv hitems, scan_itemTokens hvs]
    simp [Function.comp_def]

theorem scan_fieldTokens {fields : List (Option String × Json)}
    (hfields : lastingFields fields = true) {rest : List Utf8.Symbol} :
    scan .between (written (fieldTokens fields) ++ rest) =
      (scan .between rest).map (fieldTokens fields ++ ·) := by
  match fields with
  | [] => exact scan_closed rfl [] rest
  | (k, v) :: fields =>
    obtain ⟨hkv, hfields⟩ := (Bool.and_eq_true ..).mp hfields
    obtain ⟨hk, hv⟩ := (Bool.and_eq_true ..).mp hkv
    have hlater := endsNumber_fieldTokens fields rest
    rw [fieldTokens, scan_closed rfl, scan_closed (t := .text k) hk, scan_closed rfl,
      written_append, scan_tokens hv hlater, scan_fieldTokens hfields]
    simp [Function.comp_def]

end

/-! ## 5. The round trip -/

/-- **A lasting value is what its text is read as.** -/
theorem ofSymbols?_compact {v : Json} (hv : v.lasting = true) :
    ofSymbols? (Utf8.ofText v.compact) = some v := by
  have hrest : EndsNumber [] := fun c r h => by cases h
  have hscan := scan_tokens hv hrest
  have hread := read_tokens v [] []
  rw [List.append_nil] at hread hscan
  have htext : Utf8.ofText v.compact = written v.tokens := by
    rw [Utf8.ofText, compact, String.toList_ofList, written]
  rw [ofSymbols?, tokens?, htext, hscan]
  show (read .value [] (v.tokens ++ [])) = some v
  rw [List.append_nil, hread]
  rfl

end Json

end MotionContexts
