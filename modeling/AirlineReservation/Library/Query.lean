import Mathlib.Data.List.TakeWhile

/-!
The query part of a URL, as bytes. It ends at '#', its parts stand between '&',
a part is split at its first '=', and then name and value are percent-decoded. A
part that is written without any encoding is read as it was meant exactly when
its value has no byte with a meaning of its own.
-/

namespace Query

def hexValue (b : UInt8) : Option UInt8 :=
  if 48 ≤ b ∧ b ≤ 57 then some (b - 48)
  else if 65 ≤ b ∧ b ≤ 70 then some (b - 55)
  else if 97 ≤ b ∧ b ≤ 102 then some (b - 87)
  else none

/-- The byte that '%' and two hexadecimal digits stand for. -/
def escaped (a b c : UInt8) : Option UInt8 :=
  if a = 37 then do
    let high ← hexValue b
    let low ← hexValue c
    return 16 * high + low
  else none

/-- A '%' without two digits behind it stands for itself. -/
def percentDecode : List UInt8 → List UInt8
  | a :: b :: c :: rest =>
    match escaped a b c with
    | some byte => byte :: percentDecode rest
    | none => a :: percentDecode (b :: c :: rest)
  | text => text

def readPart (part : List UInt8) : List UInt8 × List UInt8 :=
  (percentDecode (part.takeWhile (· ≠ 61)), percentDecode ((part.dropWhile (· ≠ 61)).drop 1))

/-- The names and values of a query, in order. -/
def parameters (query : List UInt8) : List (List UInt8 × List UInt8) :=
  ((query.takeWhile (· ≠ 35)).splitOn 38).map readPart

/-- What stands behind the first '?', unless it is in the fragment. -/
def queryPart (url : List UInt8) : List UInt8 :=
  ((url.takeWhile (· ≠ 35)).dropWhile (· ≠ 63)).drop 1

/-- No three bytes of the text are an escape. -/
def NoEscape (text : List UInt8) : Prop := ∀ a b c, [a, b, c] <:+: text → escaped a b c = none

/-- A text that may stand in a query as it is. -/
structure Plain (text : List UInt8) : Prop where
  noAmpersand : 38 ∉ text
  noHash : 35 ∉ text
  noEscape : NoEscape text

theorem length_percentDecode_le (text : List UInt8) :
    (percentDecode text).length ≤ text.length := by
  fun_induction percentDecode text with
  | case1 a b c rest byte h ih =>
    simp only [List.length_cons]
    omega
  | case2 a b c rest h ih =>
    simp only [List.length_cons] at ih ⊢
    omega
  | case3 text h => exact Nat.le_refl _

theorem noEscape_of_length {text : List UInt8} (h : text.length < 3) : NoEscape text := by
  intro a b c hin
  have hlength := hin.length_le
  simp only [List.length_cons, List.length_nil] at hlength
  omega

theorem noEscape_cons_iff (a b c : UInt8) (rest : List UInt8) :
    NoEscape (a :: b :: c :: rest) ↔ escaped a b c = none ∧ NoEscape (b :: c :: rest) := by
  constructor
  · intro h
    refine ⟨h a b c ⟨[], rest, rfl⟩, ?_⟩
    intro a' b' c' hin
    exact h a' b' c' (List.infix_cons hin)
  · intro h a' b' c' hin
    rcases List.infix_cons_iff.mp hin with hhead | htail
    · obtain ⟨rest', heq⟩ := hhead
      simp only [List.cons_append, List.nil_append, List.cons.injEq] at heq
      obtain ⟨rfl, rfl, rfl, _⟩ := heq
      exact h.1
    · exact h.2 a' b' c' htail

/-- Decoding changes every text that has an escape: it becomes shorter. -/
theorem percentDecode_eq_self_iff (text : List UInt8) :
    percentDecode text = text ↔ NoEscape text := by
  fun_induction percentDecode text with
  | case1 a b c rest byte h ih =>
    rw [noEscape_cons_iff, h]
    refine iff_of_false ?_ (by simp)
    intro heq
    have hlength := length_percentDecode_le rest
    have hsame := congrArg List.length heq
    simp only [List.length_cons] at hsame
    omega
  | case2 a b c rest h ih =>
    rw [noEscape_cons_iff, List.cons_inj_right, ih]
    exact (and_iff_right h).symm
  | case3 text h =>
    refine iff_of_true rfl (noEscape_of_length ?_)
    match text, h with
    | [], _ => simp
    | [_], _ => simp
    | [_, _], _ => simp
    | a :: b :: c :: rest, h => exact absurd rfl (h a b c rest)

theorem noEscape_of_no_percent {text : List UInt8} (h : 37 ∉ text) : NoEscape text := by
  intro a b c hin
  have ha : a ≠ 37 := by
    intro heq
    subst heq
    exact h (hin.subset List.mem_cons_self)
  rw [escaped, if_neg ha]

/-- A search for a byte passes a text without it. -/
theorem forall_ne_of_not_mem {c : UInt8} {text : List UInt8} (h : c ∉ text) :
    ∀ b ∈ text, decide (b ≠ c) = true := by
  intro b hb
  have hne : b ≠ c := fun heq => h (heq ▸ hb)
  exact decide_eq_true hne

theorem readPart_append {key : List UInt8} (hkey : 61 ∉ key) (value : List UInt8) :
    readPart (key ++ 61 :: value) = (percentDecode key, percentDecode value) := by
  have hall := forall_ne_of_not_mem hkey
  rw [readPart, List.takeWhile_append_of_pos hall, List.dropWhile_append_of_pos hall]
  simp

theorem takeWhile_hash {part : List UInt8} (h : 35 ∉ part) (rest : List UInt8) :
    (part ++ rest).takeWhile (· ≠ 35) = part ++ rest.takeWhile (· ≠ 35) :=
  List.takeWhile_append_of_pos (forall_ne_of_not_mem h)

section Parts

variable {part : List UInt8} (hamp : 38 ∉ part) (hhash : 35 ∉ part)
include hamp hhash

theorem parameters_part : parameters part = [readPart part] := by
  have htake := takeWhile_hash hhash []
  rw [List.append_nil, List.takeWhile_nil, List.append_nil] at htake
  rw [parameters, htake, List.splitOn_eq_singleton hamp, List.map_singleton]

theorem parameters_part_ampersand (rest : List UInt8) :
    parameters (part ++ 38 :: rest) = readPart part :: parameters rest := by
  have hcut : (38 :: rest).takeWhile (· ≠ 35) = 38 :: rest.takeWhile (· ≠ 35) := by simp
  rw [parameters, takeWhile_hash hhash, hcut, List.splitOn_append_cons_self_of_not_mem hamp,
    List.map_cons, parameters]

theorem parameters_part_hash (rest : List UInt8) :
    parameters (part ++ 35 :: rest) = [readPart part] := by
  have hcut : (35 :: rest).takeWhile (· ≠ 35) = [] := by simp
  rw [parameters, takeWhile_hash hhash, hcut, List.append_nil,
    List.splitOn_eq_singleton hamp, List.map_singleton]

end Parts

/-- A value with '&' or '#' goes on behind the first of them. -/
theorem exists_first_separator {value : List UInt8} (h : 38 ∈ value ∨ 35 ∈ value) :
    ∃ before c after, value = before ++ c :: after ∧ 38 ∉ before ∧ 35 ∉ before ∧
      (c = 38 ∨ c = 35) := by
  induction value with
  | nil => simp at h
  | cons b rest ih =>
    by_cases hb : b = 38 ∨ b = 35
    · exact ⟨[], b, rest, rfl, List.not_mem_nil, List.not_mem_nil, hb⟩
    · obtain ⟨hb38, hb35⟩ := not_or.mp hb
      have hrest : 38 ∈ rest ∨ 35 ∈ rest := by
        simpa [Ne.symm hb38, Ne.symm hb35] using h
      obtain ⟨before, c, after, rfl, hamp, hhash, hc⟩ := ih hrest
      refine ⟨b :: before, c, after, rfl, ?_, ?_, hc⟩
      · simp [Ne.symm hb38, hamp]
      · simp [Ne.symm hb35, hhash]

section Value

variable {key : List UInt8} (hkey : Plain key) (heq : 61 ∉ key)
include hkey

/-- Without a separator in the value there is none in the part. -/
theorem no_separator_part {value : List UInt8} (h38 : 38 ∉ value) (h35 : 35 ∉ value) :
    38 ∉ key ++ 61 :: value ∧ 35 ∉ key ++ 61 :: value := by
  constructor
  · simp [h38, hkey.noAmpersand]
  · simp [h35, hkey.noHash]

include heq

/-- Where the value has a separator, the first parameter ends there, whatever follows. -/
theorem parameters_head_ne {value : List UInt8} (h : 38 ∈ value ∨ 35 ∈ value)
    (tail : List UInt8) (params : List (List UInt8 × List UInt8)) :
    parameters (key ++ 61 :: value ++ tail) ≠ (key, value) :: params := by
  obtain ⟨before, c, after, rfl, hbefore38, hbefore35, hc⟩ := exists_first_separator h
  obtain ⟨hamp, hhash⟩ := no_separator_part hkey hbefore38 hbefore35
  have htext : key ++ 61 :: (before ++ c :: after) ++ tail =
      key ++ 61 :: before ++ c :: (after ++ tail) := by simp
  have hfirst : ∃ others, parameters (key ++ 61 :: (before ++ c :: after) ++ tail) =
      readPart (key ++ 61 :: before) :: others := by
    rw [htext]
    rcases hc with rfl | rfl
    · exact ⟨_, parameters_part_ampersand hamp hhash _⟩
    · exact ⟨[], parameters_part_hash hamp hhash _⟩
  obtain ⟨others, hothers⟩ := hfirst
  rw [hothers, readPart_append heq]
  intro hsame
  have hvalue := congrArg List.length (Prod.mk.inj (List.cons.inj hsame).1).2
  have hshort := length_percentDecode_le before
  simp only [List.length_append, List.length_cons] at hvalue
  omega

/-- A part without separators is read as it was meant exactly when its value is
plain. -/
theorem readPart_eq_iff {value : List UInt8} (h38 : 38 ∉ value) (h35 : 35 ∉ value) :
    readPart (key ++ 61 :: value) = (key, value) ↔ Plain value := by
  rw [readPart_append heq, (percentDecode_eq_self_iff key).mpr hkey.noEscape, Prod.mk.injEq,
    percentDecode_eq_self_iff]
  constructor
  · intro h
    exact ⟨h38, h35, h.2⟩
  · intro h
    exact ⟨rfl, h.noEscape⟩

theorem parameters_last_iff (value : List UInt8) :
    parameters (key ++ 61 :: value) = [(key, value)] ↔ Plain value := by
  by_cases hsep : 38 ∈ value ∨ 35 ∈ value
  · have hne := parameters_head_ne hkey heq hsep [] []
    rw [List.append_nil] at hne
    exact iff_of_false hne fun h => hsep.elim h.noAmpersand h.noHash
  · obtain ⟨h38, h35⟩ := not_or.mp hsep
    obtain ⟨hamp, hhash⟩ := no_separator_part hkey h38 h35
    rw [parameters_part hamp hhash, List.singleton_inj, readPart_eq_iff hkey heq h38 h35]

theorem parameters_cons_iff (value rest : List UInt8)
    (params : List (List UInt8 × List UInt8)) :
    parameters (key ++ 61 :: value ++ 38 :: rest) = (key, value) :: params ↔
      Plain value ∧ parameters rest = params := by
  by_cases hsep : 38 ∈ value ∨ 35 ∈ value
  · exact iff_of_false (parameters_head_ne hkey heq hsep _ params)
      fun h => hsep.elim h.1.noAmpersand h.1.noHash
  · obtain ⟨h38, h35⟩ := not_or.mp hsep
    obtain ⟨hamp, hhash⟩ := no_separator_part hkey h38 h35
    rw [parameters_part_ampersand hamp hhash, List.cons.injEq,
      readPart_eq_iff hkey heq h38 h35]

end Value

/-- Parameters written one behind the other, without any encoding. -/
def write : List (List UInt8 × List UInt8) → List UInt8
  | [] => []
  | [(key, value)] => key ++ 61 :: value
  | (key, value) :: param :: params => key ++ 61 :: value ++ 38 :: write (param :: params)

/-- A query without encoding is read as the parameters it was written from exactly
when all their values are plain. -/
theorem parameters_write_iff {params : List (List UInt8 × List UInt8)} (hne : params ≠ [])
    (hkeys : ∀ param ∈ params, Plain param.1 ∧ 61 ∉ param.1) :
    parameters (write params) = params ↔ ∀ param ∈ params, Plain param.2 := by
  induction params with
  | nil => contradiction
  | cons first rest ih =>
    obtain ⟨key, value⟩ := first
    obtain ⟨hkey, heq⟩ := hkeys (key, value) List.mem_cons_self
    cases rest with
    | nil =>
      rw [write, parameters_last_iff hkey heq, List.forall_mem_singleton]
    | cons second rest =>
      have hrest := ih (List.cons_ne_nil second rest)
        fun param hparam => hkeys param (List.mem_cons_of_mem _ hparam)
      rw [write, parameters_cons_iff hkey heq, hrest]
      constructor
      · intro h param hparam
        rcases List.mem_cons.mp hparam with rfl | hmem
        · exact h.1
        · exact h.2 param hmem
      · intro h
        exact ⟨h (key, value) List.mem_cons_self,
          fun param hparam => h param (List.mem_cons_of_mem _ hparam)⟩

/-- Behind a text without '#' and '?' the query begins at the '?'. -/
theorem parameters_queryPart {base : List UInt8} (hhash : 35 ∉ base) (hmark : 63 ∉ base)
    (query : List UInt8) : parameters (queryPart (base ++ 63 :: query)) = parameters query := by
  have hall := forall_ne_of_not_mem hmark
  have hcut : (63 :: query).takeWhile (· ≠ 35) = 63 :: query.takeWhile (· ≠ 35) := by simp
  have htwice : (query.takeWhile (· ≠ 35)).takeWhile (· ≠ 35) = query.takeWhile (· ≠ 35) :=
    List.takeWhile_idem
  rw [queryPart, takeWhile_hash hhash, hcut, List.dropWhile_append_of_pos hall]
  simp only [parameters, ne_eq, not_true_eq_false, decide_false, Bool.false_eq_true,
    not_false_eq_true, List.dropWhile_cons_of_neg, List.drop_succ_cons, List.drop_zero]
  rw [htwice]

end Query
