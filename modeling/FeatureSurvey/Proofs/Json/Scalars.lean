import FeatureSurvey.Json.Printer
import FeatureSurvey.Json.Reader
import FeatureSurvey.Proofs.Text.Pieces

/-!
# `Proofs/Json/Scalars.lean` — scalars that are read back

What is written for a scalar is read as that scalar, and the reader stops where the scalar ends
(`value?_scalar`). For a string this is so since each character is escaped in one of three ways, and
none of them is taken for the closing quote (`escapeChar_cases`). For a number it is so as long as
what stands behind it does not go on with it (`EndsNumber`), and as a word holds it: a longer one
would be read as a real.
-/

set_option autoImplicit false

namespace FeatureSurvey.Json

/-! ## Strings -/

theorem hexUnit?_hexDigit :
    ∀ n < 32, hexUnit? '0' '0' (hexDigit (n / 16)) (hexDigit (n % 16)) = some n := by
  decide

/-- A character that is written as itself is read as itself. -/
theorem stringUnits?_plain {c : Char} (hquote : c ≠ '"') (hslash : c ≠ '\\') (hplain : 32 ≤ c.toNat)
    (cs : List Char) :
    stringUnits? (c :: cs) = (stringUnits? cs).map fun r => (.char c :: r.1, r.2) := by
  have hstays : ¬ (c = '\\' ∨ c.toNat < 32) := by
    rintro (h | h)
    · exact hslash h
    · omega
  rw [stringUnits?, if_neg hstays]
  · cases stringUnits? cs <;> rfl
  · exact hquote
  · rintro _ _ _ _ _ rfl
    exact absurd rfl hslash
  · rintro _ _ rfl
    exact absurd rfl hslash

/-- What is written as a backslash and a letter is read as what the letter stands for. -/
theorem stringUnits?_simple {c e : Char} (he : e ≠ 'u') (hc : simpleEscape? e = some c)
    (cs : List Char) :
    stringUnits? ('\\' :: e :: cs) = (stringUnits? cs).map fun r => (.char c :: r.1, r.2) := by
  rw [stringUnits?]
  · rw [hc]
    cases stringUnits? cs <;> rfl
  · rintro _ _ _ _ _ rfl
    exact absurd rfl he

theorem stringUnits?_unit {a b c d : Char} {n : Nat} (hn : hexUnit? a b c d = some n)
    (hsmall : n < 0xD800) (cs : List Char) :
    stringUnits? ('\\' :: 'u' :: a :: b :: c :: d :: cs) =
      (stringUnits? cs).map fun r => (.char (Char.ofNat n) :: r.1, r.2) := by
  rw [stringUnits?, hn]
  cases stringUnits? cs with
  | none => rfl
  | some r =>
    simp only [Option.bind_eq_bind, Option.bind_some]
    rw [if_neg (by omega)]
    rfl

/-- A character is written as itself, as a backslash and a letter, or as a backslash and its
number. -/
theorem escapeChar_cases (c : Char) :
    (escapeChar c = [c] ∧ c ≠ '"' ∧ c ≠ '\\' ∧ 32 ≤ c.toNat) ∨
    (∃ e, escapeChar c = ['\\', e] ∧ e ≠ 'u' ∧ simpleEscape? e = some c) ∨
    (escapeChar c = ['\\', 'u', '0', '0', hexDigit (c.toNat / 16), hexDigit (c.toNat % 16)] ∧
      c.toNat < 32) := by
  unfold escapeChar
  by_cases hquote : c = '"'
  · subst hquote
    exact .inr (.inl ⟨'"', rfl, by decide, rfl⟩)
  by_cases hslash : c = '\\'
  · subst hslash
    exact .inr (.inl ⟨'\\', rfl, by decide, rfl⟩)
  rw [if_neg hquote, if_neg hslash]
  by_cases hplain : 32 ≤ c.toNat
  · rw [if_pos hplain]
    exact .inl ⟨rfl, hquote, hslash, hplain⟩
  rw [if_neg hplain]
  refine .inr ?_
  split
  · rename_i h
    exact .inl ⟨'n', rfl, by decide, h ▸ rfl⟩
  split
  · rename_i h
    exact .inl ⟨'t', rfl, by decide, h ▸ rfl⟩
  split
  · rename_i h
    exact .inl ⟨'r', rfl, by decide, h ▸ rfl⟩
  split
  · rename_i h
    obtain rfl : c = '\x08' := Char.toNat_inj.1 h
    exact .inl ⟨'b', rfl, by decide, rfl⟩
  split
  · rename_i h
    obtain rfl : c = '\x0c' := Char.toNat_inj.1 h
    exact .inl ⟨'f', rfl, by decide, rfl⟩
  · exact .inr ⟨rfl, by omega⟩

/-- An escaped character is read as that character. -/
theorem stringUnits?_escapeChar (c : Char) (cs : List Char) :
    stringUnits? (escapeChar c ++ cs) =
      (stringUnits? cs).map fun r => (.char c :: r.1, r.2) := by
  obtain ⟨h, hquote, hslash, hplain⟩ | ⟨e, h, he, hc⟩ | ⟨h, hsmall⟩ := escapeChar_cases c
  · rw [h]
    exact stringUnits?_plain hquote hslash hplain cs
  · rw [h]
    exact stringUnits?_simple he hc cs
  · have hunit := stringUnits?_unit (hexUnit?_hexDigit c.toNat hsmall) (by omega) cs
    rw [Char.ofNat_toNat] at hunit
    rw [h]
    exact hunit

theorem stringUnits?_escaped (s : List Char) (rest : List Char) :
    stringUnits? (s.flatMap escapeChar ++ '"' :: rest) = some (s.map .char, rest) := by
  induction s with
  | nil => rw [List.flatMap_nil, List.nil_append, stringUnits?, List.map_nil]
  | cons c s ih =>
    rw [List.flatMap_cons, List.append_assoc, stringUnits?_escapeChar, ih, Option.map_some,
      List.map_cons]

theorem joinUnits?_chars (s : List Char) : joinUnits? (s.map .char) = some s := by
  induction s with
  | nil => rfl
  | cons c s ih => rw [List.map_cons, joinUnits?, ih, Option.map_some]

theorem stringSource_chars (s : String) :
    stringSource (s.toList.map .char) = .value (.text s) := by
  rw [stringSource, joinUnits?_chars]
  exact congrArg (fun text => Source.value (.text text)) String.ofList_toList

theorem toList_quote (s : String) :
    (quote s).toList = '"' :: (s.toList.flatMap escapeChar ++ ['"']) := by
  simp [quote]

/-! ## Numbers -/

/-- The characters do not go on with a number. -/
def EndsNumber (rest : List Char) : Prop :=
  ∀ c ∈ rest.head?, c.isDigit = false ∧ c ≠ '.' ∧ c ≠ 'e' ∧ c ≠ 'E'

/-- Only zero itself begins with a zero. -/
theorem head?_toDigits_eq_zero {n : Nat} (h : (Nat.toDigits 10 n).head? = some '0') : n = 0 := by
  induction n using Nat.strongRecOn with
  | ind n ih =>
    by_cases hn : n < 10
    · rw [Nat.toDigits_of_lt_base hn] at h
      exact Nat.digitChar_eq_zero.1 (Option.some.inj h)
    · rw [Nat.toDigits_of_base_le (by decide) (Nat.le_of_not_lt hn),
        List.head?_append, List.head?_eq_some_head Nat.toDigits_ne_nil, Option.some_or,
        ← List.head?_eq_some_head] at h
      have := ih (n / 10) (by omega) h
      omega

theorem digitRun?_append {ds rest : List Char} (hdigits : ∀ c ∈ ds, c.isDigit = true)
    (hne : ds ≠ []) (hrest : EndsNumber rest) : digitRun? (ds ++ rest) = some (ds, rest) := by
  obtain ⟨htake, hdrop⟩ := Text.takeWhile_dropWhile_append (p := isDigitChar) hdigits
    fun c hc => (hrest c hc).1
  rw [digitRun?, htake, hdrop, if_neg (by simpa using hne)]

theorem exponentPart?_eq {rest : List Char} (h : EndsNumber rest) :
    exponentPart? rest = some (none, rest) := by
  cases rest with
  | nil => rfl
  | cons c cs =>
    obtain ⟨-, -, he, hE⟩ := h c rfl
    have hmark : ¬ (c = 'e' ∨ c = 'E') := by simp [he, hE]
    exact if_neg hmark

theorem unsigned?_toDigits (negative : Bool) (n : Nat) {rest : List Char}
    (hrest : EndsNumber rest) :
    unsigned? negative (Nat.toDigits 10 n ++ rest) =
      some (⟨negative, Nat.toDigits 10 n, [], none⟩, rest) := by
  have hdigits : ∀ c ∈ Nat.toDigits 10 n, c.isDigit = true := fun c hc =>
    Nat.isDigit_of_mem_toDigits (by decide) (by decide) hc
  have hzero : ¬ ((Nat.toDigits 10 n).head? = some '0' ∧ (Nat.toDigits 10 n).length ≠ 1) := by
    rintro ⟨hhead, hlength⟩
    rw [head?_toDigits_eq_zero hhead] at hlength
    exact hlength rfl
  rw [unsigned?, digitRun?_append hdigits Nat.toDigits_ne_nil hrest, Option.bind_eq_bind,
    Option.bind_some]
  simp only [if_neg hzero]
  split
  · exact absurd rfl (hrest '.' rfl).2.1
  · rw [Option.bind_some, exponentPart?_eq hrest]
    rfl

/-- The number that digits stand for. -/
theorem foldl_toDigits (n : Nat) :
    (Nat.toDigits 10 n).foldl (fun k c => k * 10 + digitValue c) 0 = n := by
  have h := Nat.ofDigitChars_ten_toDigits (n := n)
  simp only [Nat.ofDigitChars_eq_foldl, Nat.mul_comm 10] at h
  exact h

theorem Numeral.source_positive {n : Nat} (h : n ≤ maxWord) :
    Numeral.source ⟨false, Nat.toDigits 10 n, [], none⟩ = .value (.int n) := by
  have hwhole : ((Nat.toDigits 10 n).foldl (fun k c => k * 10 + digitValue c) 0 ≤ maxWord) := by
    rwa [foldl_toDigits]
  show (if _ ≤ maxWord then _ else _) = _
  rw [if_pos hwhole, foldl_toDigits]
  rfl

theorem Numeral.source_negative {n : Nat} (hpos : 0 < n) (h : n ≤ wordSignBit) :
    Numeral.source ⟨true, Nat.toDigits 10 n, [], none⟩ = .value (.int (-n)) := by
  have hwhole : ¬ ((Nat.toDigits 10 n).foldl (fun k c => k * 10 + digitValue c) 0 = 0 ∨
      wordSignBit < (Nat.toDigits 10 n).foldl (fun k c => k * 10 + digitValue c) 0) := by
    rw [foldl_toDigits]
    omega
  show (if _ = 0 ∨ wordSignBit < _ then _ else _) = _
  rw [if_neg hwhole, foldl_toDigits]

theorem toList_toString_negSucc (k : Nat) :
    (toString (Int.negSucc k)).toList = '-' :: Nat.toDigits 10 (k + 1) := by
  show ("-" ++ Nat.repr (k + 1)).toList = _
  rw [String.toList_append, Nat.toList_repr]
  rfl

/-- A whole number that a word holds, with a sign or without one. -/
def InWord (n : Int) : Prop := -wordSignBit ≤ n ∧ n ≤ maxWord

theorem numeral?_toString {n : Int} (h : InWord n) {rest : List Char} (hrest : EndsNumber rest) :
    ∃ numeral, numeral? ((toString n).toList ++ rest) = some (numeral, rest) ∧
      numeral.source = .value (.int n) := by
  obtain ⟨hlow, hhigh⟩ := h
  cases n with
  | ofNat k =>
    have htext : (toString (Int.ofNat k)).toList = Nat.toDigits 10 k := Nat.toList_repr
    refine ⟨_, ?_, Numeral.source_positive (Int.ofNat_le.1 hhigh)⟩
    rw [htext, numeral?, unsigned?_toDigits false k hrest]
    intro cs hcs
    obtain ⟨d, ds, hd⟩ := List.exists_cons_of_ne_nil (Nat.toDigits_ne_nil (n := k) (b := 10))
    have hdigit := Nat.isDigit_of_mem_toDigits (by decide) (by decide) (hd ▸ List.mem_cons_self)
    rw [hd] at hcs
    obtain rfl := (List.cons.inj hcs).1
    cases hdigit
  | negSucc k =>
    refine ⟨_, ?_, Numeral.source_negative (Nat.succ_pos k) (by omega)⟩
    rw [toList_toString_negSucc, List.cons_append, numeral?, unsigned?_toDigits true (k + 1) hrest]

/-- The first letter of a number. -/
def BeginsNumber (c : Char) : Prop := c = '-' ∨ c.isDigit = true

theorem exists_toString_cons (n : Int) :
    ∃ c cs, (toString n).toList = c :: cs ∧ BeginsNumber c := by
  cases n with
  | ofNat k =>
    obtain ⟨c, cs, hcs⟩ := List.exists_cons_of_ne_nil (Nat.toDigits_ne_nil (n := k) (b := 10))
    refine ⟨c, cs, Nat.toList_repr.trans hcs, .inr ?_⟩
    exact Nat.isDigit_of_mem_toDigits (by decide) (by decide) (hcs ▸ List.mem_cons_self)
  | negSucc k => exact ⟨'-', Nat.toDigits 10 (k + 1), toList_toString_negSucc k, .inl rfl⟩

/-- A number begins with no mark that something else begins with. -/
theorem BeginsNumber.ne {c : Char} (h : BeginsNumber c) {d : Char} (hminus : d ≠ '-')
    (hdigit : d.isDigit = false) : c ≠ d := by
  rintro rfl
  rcases h with h | h
  · exact hminus h
  · rw [hdigit] at h
    cases h

theorem BeginsNumber.space {c : Char} (h : BeginsNumber c) : isSpace c = false := by
  simp [isSpace, h.ne]

/-! ## Scalars -/

/-- Scalars that are written in a form of their own. -/
inductive IsScalar : Value → Prop
  | null : IsScalar .null
  | bool (b : Bool) : IsScalar (.bool b)
  | int {n : Int} (h : InWord n) : IsScalar (.int n)
  | text (s : String) : IsScalar (.text s)

/-- The first character of a text is not blank, and it does not close a list. -/
structure Opens (c : Char) : Prop where
  space : isSpace c = false
  bracket : c ≠ ']'

theorem skipSpace_cons {c : Char} (h : isSpace c = false) (cs : List Char) :
    skipSpace (c :: cs) = c :: cs :=
  List.dropWhile_cons_of_neg (by rw [h]; exact Bool.false_ne_true)

theorem keyword?_eq_none {c : Char} (ht : c ≠ 't') (hf : c ≠ 'f') (hn : c ≠ 'n') (cs : List Char) :
    keyword? (c :: cs) = none := by
  unfold keyword?
  split <;> simp_all

variable {v : Value} {rest : List Char}

theorem value?_scalar (h : IsScalar v) (hrest : EndsNumber rest) (fuel depth : Nat) :
    value? (fuel + 1) depth ((printScalar v).toList ++ rest) = some (.value v, rest) := by
  cases h with
  | null => rfl
  | bool b => cases b <;> rfl
  | text s =>
    rw [printScalar, toList_quote, List.cons_append, List.append_assoc, List.singleton_append,
      value?, skipSpace_cons (by decide)]
    simp only [stringUnits?_escaped, Option.bind_eq_bind, Option.bind_some, stringSource_chars]
  | @int n h =>
    obtain ⟨c, cs, hcs, hc⟩ := exists_toString_cons n
    obtain ⟨numeral, hread, hsource⟩ := numeral?_toString h hrest
    rw [printScalar]
    rw [hcs, List.cons_append] at hread ⊢
    have hkeyword : keyword? (c :: (cs ++ rest)) = none :=
      keyword?_eq_none (hc.ne (by decide) rfl) (hc.ne (by decide) rfl) (hc.ne (by decide) rfl) _
    rw [value?, skipSpace_cons hc.space]
    split
    · rename_i hmark
      exact absurd (List.cons.inj hmark).1 (hc.ne (by decide) rfl)
    · rename_i hmark
      exact absurd (List.cons.inj hmark).1 (hc.ne (by decide) rfl)
    · rename_i hmark
      exact absurd (List.cons.inj hmark).1 (hc.ne (by decide) rfl)
    · simp only [hkeyword, hread, Option.map_some, hsource]

theorem exists_printScalar_cons (h : IsScalar v) :
    ∃ c cs, (printScalar v).toList = c :: cs ∧ Opens c := by
  cases h with
  | null => exact ⟨'n', _, rfl, by decide, by decide⟩
  | bool b => cases b <;> exact ⟨_, _, rfl, by decide, by decide⟩
  | text s => exact ⟨'"', _, toList_quote s, by decide, by decide⟩
  | @int n h =>
    obtain ⟨c, cs, hcs, hc⟩ := exists_toString_cons n
    exact ⟨c, cs, hcs, hc.space, hc.ne (by decide) rfl⟩

end FeatureSurvey.Json
