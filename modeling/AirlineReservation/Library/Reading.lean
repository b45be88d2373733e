import Mathlib.Algebra.Group.Nat.Defs
import Mathlib.Data.Int.Notation
import Mathlib.Data.List.Forall2
import Mathlib.Data.List.TakeWhile

/-!
Texts that are read back. A reader takes a value from the front of a text and
leaves the rest. For each way of writing (whole numbers, quoted strings, lists
with commas between marks, one item on a line) there is a reader, and the reader
takes from the text exactly what was written.
-/

namespace Reading

variable {α β : Type*}

/-- What follows does not go on with a number. -/
def Stops (rest : List Char) : Prop := ∀ c ∈ rest.head?, c.isDigit = false

/-- The reader takes the whole of `text` as `a` and nothing of what follows. -/
def Reads (reader : List Char → Option (α × List Char)) (text : List Char) (a : α) : Prop :=
  ∀ rest, Stops rest → reader (text ++ rest) = some (a, rest)

theorem stops_cons {c : Char} (h : c.isDigit = false) (rest : List Char) : Stops (c :: rest) := by
  intro c' hc'
  cases Option.mem_some_iff.mp hc'
  exact h

def isSpace (c : Char) : Bool := c = ' ' || c = '\t' || c = '\n' || c = '\r'

def skipSpace (cs : List Char) : List Char := cs.dropWhile isSpace

def newline (depth : ℕ) : List Char := '\n' :: List.replicate (4 * depth) ' '

theorem skipSpace_cons {c : Char} (h : isSpace c = false) (cs : List Char) :
    skipSpace (c :: cs) = c :: cs := by
  rw [skipSpace, List.dropWhile_cons_of_neg (by simp [h])]

theorem skipSpace_newline (depth : ℕ) (cs : List Char) :
    skipSpace (newline depth ++ cs) = skipSpace cs := by
  have hspaces : ∀ n, skipSpace (List.replicate n ' ' ++ cs) = skipSpace cs := by
    intro n
    induction n with
    | zero => rfl
    | succ n ih => exact ih
  exact hspaces (4 * depth)

/-- The word, which stands for `a`. -/
def keyword (word : List Char) (a : α) (cs : List Char) : Option (α × List Char) :=
  if word <+: cs then some (a, cs.drop word.length) else none

theorem reads_keyword (word : List Char) (a : α) : Reads (keyword word a) word a := by
  intro rest _
  rw [keyword, if_pos (List.prefix_append word rest), List.drop_left]

def writeInt : ℤ → List Char
  | .ofNat n => Nat.toDigits 10 n
  | .negSucc n => '-' :: Nat.toDigits 10 (n + 1)

def readNat (cs : List Char) : Option (ℕ × List Char) :=
  if cs.takeWhile Char.isDigit = [] then none
  else some (Nat.ofDigitChars 10 (cs.takeWhile Char.isDigit) 0, cs.dropWhile Char.isDigit)

def readInt : List Char → Option (ℤ × List Char)
  | [] => none
  | c :: cs =>
    if c = '-' then (readNat cs).map fun p => (-p.1, p.2)
    else (readNat (c :: cs)).map fun p => (p.1, p.2)

theorem isDigit_toDigits {n : ℕ} {c : Char} (h : c ∈ Nat.toDigits 10 n) : c.isDigit = true :=
  Nat.isDigit_of_mem_toDigits (by decide) (by decide) h

theorem takeWhile_append_stops {digits rest : List Char} (hdigits : ∀ c ∈ digits, c.isDigit = true)
    (hrest : Stops rest) : (digits ++ rest).takeWhile Char.isDigit = digits ∧
      (digits ++ rest).dropWhile Char.isDigit = rest := by
  rw [List.takeWhile_append_of_pos hdigits, List.dropWhile_append_of_pos hdigits]
  cases rest with
  | nil => simp
  | cons c cs =>
    have hc : c.isDigit = false := hrest c rfl
    simp [hc]

theorem reads_toDigits (n : ℕ) : Reads readNat (Nat.toDigits 10 n) n := by
  intro rest hrest
  obtain ⟨htake, hdrop⟩ := takeWhile_append_stops (fun _ => isDigit_toDigits) hrest
  rw [readNat, htake, hdrop, if_neg Nat.toDigits_ne_nil, Nat.ofDigitChars_ten_toDigits]

theorem head_toDigits (n : ℕ) :
    ∃ c cs, Nat.toDigits 10 n = c :: cs ∧ c.isDigit = true := by
  cases hdigits : Nat.toDigits 10 n with
  | nil => exact absurd hdigits Nat.toDigits_ne_nil
  | cons c cs =>
    refine ⟨c, cs, rfl, isDigit_toDigits (n := n) ?_⟩
    rw [hdigits]
    exact List.mem_cons_self

/-- A number begins with its sign or with a digit. -/
theorem head_writeInt (i : ℤ) :
    ∃ c cs, writeInt i = c :: cs ∧ (c = '-' ∨ c.isDigit = true) := by
  cases i with
  | negSucc n => exact ⟨'-', _, rfl, Or.inl rfl⟩
  | ofNat n =>
    obtain ⟨c, cs, hdigits, hdigit⟩ := head_toDigits n
    exact ⟨c, cs, hdigits, Or.inr hdigit⟩

theorem reads_writeInt (i : ℤ) : Reads readInt (writeInt i) i := by
  intro rest hrest
  cases i with
  | negSucc n =>
    have hread := reads_toDigits (n + 1) rest hrest
    simp only [writeInt, List.cons_append, readInt, if_pos, hread]
    rfl
  | ofNat n =>
    have hread := reads_toDigits n rest hrest
    obtain ⟨c, cs, hdigits, hdigit⟩ := head_toDigits n
    have hsign : c ≠ '-' := by
      intro heq
      subst heq
      contradiction
    rw [hdigits] at hread
    simp only [writeInt, hdigits, List.cons_append, readInt, if_neg hsign]
    rw [← List.cons_append, hread]
    rfl

/-- At least `width` digits. -/
def padded (width n : ℕ) : List Char :=
  List.replicate (width - (Nat.toDigits 10 n).length) '0' ++ Nat.toDigits 10 n

/-- A number of at most `width` digits that lies between the bounds. -/
def readField (width low high : ℕ) (cs : List Char) : Option (ℕ × List Char) :=
  let digits := (cs.take width).takeWhile Char.isDigit
  let n := Nat.ofDigitChars 10 digits 0
  if digits ≠ [] ∧ low ≤ n ∧ n ≤ high then some (n, cs.drop digits.length) else none

theorem length_padded {width n : ℕ} (hpos : 0 < width) (h : n < 10 ^ width) :
    (padded width n).length = width := by
  have hle := (Nat.length_toDigits_le_iff (by decide) hpos).mpr h
  rw [padded, List.length_append, List.length_replicate, Nat.sub_add_cancel hle]

theorem isDigit_padded {width n : ℕ} {c : Char} (h : c ∈ padded width n) : c.isDigit = true := by
  rcases List.mem_append.mp h with hzero | hdigit
  · rw [List.eq_of_mem_replicate hzero]
    rfl
  · exact isDigit_toDigits hdigit

/-- Leading zeros do not change the number. -/
theorem ofDigitChars_padded (width n : ℕ) : Nat.ofDigitChars 10 (padded width n) 0 = n := by
  rw [padded, Nat.ofDigitChars_append, Nat.ofDigitChars_replicate_zero, Nat.mul_zero,
    Nat.ofDigitChars_ten_toDigits]

/-- A number with all its digits gets no zeros. -/
theorem padded_eq_toDigits {width n : ℕ} (h : 10 ^ width ≤ n) :
    padded (width + 1) n = Nat.toDigits 10 n := by
  have hlength : width + 1 - (Nat.toDigits 10 n).length = 0 := by
    cases width with
    | zero =>
      have hpos := Nat.length_toDigits_pos (b := 10) (n := n)
      omega
    | succ width =>
      have hlong := mt (Nat.length_toDigits_le_iff (by decide) (Nat.succ_pos width)).mp
        (Nat.not_lt.mpr h)
      omega
  rw [padded, hlength, List.replicate_zero, List.nil_append]

theorem readField_padded {width low high n : ℕ} (hpos : 0 < width) (h : n < 10 ^ width)
    (hlow : low ≤ n) (hhigh : n ≤ high) (rest : List Char) :
    readField width low high (padded width n ++ rest) = some (n, rest) := by
  have hlength := length_padded hpos h
  have htake : ((padded width n ++ rest).take width).takeWhile Char.isDigit =
      padded width n := by
    rw [List.take_left' hlength]
    exact List.takeWhile_eq_self_iff.mpr fun c hc => isDigit_padded hc
  have hne : padded width n ≠ [] := by
    rw [← List.length_pos_iff, hlength]
    exact hpos
  simp only [readField]
  rw [htake, ofDigitChars_padded, if_pos ⟨hne, hlow, hhigh⟩, List.drop_left]

/-- Where no digit is skipped a number is not. -/
theorem dropWhile_padded {skipped : Char → Bool} (h : ∀ c, c.isDigit = true → skipped c = false)
    (width n : ℕ) (rest : List Char) :
    (padded width n ++ rest).dropWhile skipped = padded width n ++ rest := by
  cases hdigits : padded width n with
  | nil => exact absurd (List.append_eq_nil_iff.mp hdigits).2 Nat.toDigits_ne_nil
  | cons c cs =>
    have hc : c ∈ padded width n := by
      rw [hdigits]
      exact List.mem_cons_self
    rw [List.cons_append, List.dropWhile_cons_of_neg (by simp [h c (isDigit_padded hc)])]

/-- The characters with an escape of one letter. -/
def escapes : List (Char × Char) :=
  [('"', '"'), ('\\', '\\'), ('\x08', 'b'), ('\x0c', 'f'), ('\n', 'n'), ('\r', 'r'),
    ('\t', 't')]

def hexValue (c : Char) : Option ℕ := (List.range 16).find? fun d => Nat.digitChar d = c

def hexCode (digits : List Char) : Option ℕ :=
  digits.foldlM (fun n c => (hexValue c).map fun d => 16 * n + d) 0

/-- A character inside quotes. The other control characters are written by code. -/
def escape (c : Char) : List Char :=
  match escapes.lookup c with
  | some letter => ['\\', letter]
  | none =>
    if c.toNat < 32 then
      ['\\', 'u', '0', '0', Nat.digitChar (c.toNat / 16), Nat.digitChar (c.toNat % 16)]
    else [c]

def quote (text : List Char) : List Char := '"' :: (text.flatMap escape ++ ['"'])

def unescape (letter : Char) : Option Char :=
  (escapes.find? fun e => e.2 = letter).map Prod.fst

def withFirst (c : Char) (r : Option (List Char × List Char)) : Option (List Char × List Char) :=
  r.map fun text => (c :: text.1, text.2)

/-- The string up to the closing quote. -/
def readQuoted : List Char → Option (List Char × List Char)
  | [] => none
  | c :: cs =>
    if c = '"' then some ([], cs)
    else if c = '\\' then
      match cs with
      | [] => none
      | letter :: cs =>
        if letter = 'u' then
          match cs with
          | d₁ :: d₂ :: d₃ :: d₄ :: cs =>
            (hexCode [d₁, d₂, d₃, d₄]).bind fun n => withFirst (Char.ofNat n) (readQuoted cs)
          | _ => none
        else (unescape letter).bind fun c => withFirst c (readQuoted cs)
    else if c.toNat < 32 then none
    else withFirst c (readQuoted cs)

theorem escapes_distinct : ∀ e ∈ escapes,
    escapes.lookup e.1 = some e.2 ∧ e.2 ≠ 'u' ∧ unescape e.2 = some e.1 := by decide

theorem hexCode_digitChar : ∀ n < 32,
    hexCode ['0', '0', Nat.digitChar (n / 16), Nat.digitChar (n % 16)] = some n := by decide

theorem lookup_eq_none {c : Char} (h : c ∉ escapes.map Prod.fst) : escapes.lookup c = none := by
  rw [List.lookup_eq_none_iff]
  intro e he
  have hne : c ≠ e.1 := by
    intro heq
    exact h (heq ▸ List.mem_map_of_mem he)
  simpa using hne

theorem readQuoted_end (cs : List Char) : readQuoted ('"' :: cs) = some ([], cs) := by
  rw [readQuoted.eq_def]
  simp

theorem readQuoted_letter {letter : Char} (hu : letter ≠ 'u') (cs : List Char) :
    readQuoted ('\\' :: letter :: cs) =
      (unescape letter).bind fun c => withFirst c (readQuoted cs) := by
  rw [readQuoted.eq_def]
  simp [hu]

theorem readQuoted_code (d₁ d₂ d₃ d₄ : Char) (cs : List Char) :
    readQuoted ('\\' :: 'u' :: d₁ :: d₂ :: d₃ :: d₄ :: cs) =
      (hexCode [d₁, d₂, d₃, d₄]).bind fun n => withFirst (Char.ofNat n) (readQuoted cs) := by
  rw [readQuoted.eq_def]
  simp

theorem readQuoted_plain {c : Char} (hletter : c ∉ escapes.map Prod.fst) (h : ¬ c.toNat < 32)
    (cs : List Char) : readQuoted (c :: cs) = withFirst c (readQuoted cs) := by
  have hquote : c ≠ '"' := fun heq => hletter (heq ▸ by decide)
  have hbackslash : c ≠ '\\' := fun heq => hletter (heq ▸ by decide)
  rw [readQuoted.eq_def]
  simp [hquote, hbackslash, h]

/-- An escaped character is read as that character. -/
theorem readQuoted_escape (c : Char) (cs : List Char) :
    readQuoted (escape c ++ cs) = withFirst c (readQuoted cs) := by
  by_cases hletter : c ∈ escapes.map Prod.fst
  · obtain ⟨e, he, rfl⟩ := List.mem_map.mp hletter
    obtain ⟨hlookup, hu, hunescape⟩ := escapes_distinct e he
    rw [escape, hlookup]
    exact (readQuoted_letter hu cs).trans (by rw [hunescape, Option.bind_some])
  · rw [escape, lookup_eq_none hletter]
    by_cases hcontrol : c.toNat < 32
    · simp only [hcontrol, if_true, List.cons_append, List.nil_append, readQuoted_code,
        hexCode_digitChar c.toNat hcontrol, Option.bind_some, Char.ofNat_toNat]
    · simp only [hcontrol, if_false, List.cons_append, List.nil_append]
      exact readQuoted_plain hletter hcontrol cs

/-- A text is read back up to its closing quote. -/
theorem readQuoted_flatMap (text rest : List Char) :
    readQuoted (text.flatMap escape ++ '"' :: rest) = some (text, rest) := by
  induction text with
  | nil => exact readQuoted_end rest
  | cons c cs ih =>
    rw [List.flatMap_cons, List.append_assoc, readQuoted_escape, ih]
    rfl

/-- What follows an item: the others, each after a comma and on its own line, and
the closing mark. -/
def following (close : Char) (depth : ℕ) : List (List Char) → List Char
  | [] => newline depth ++ [close]
  | text :: texts => ',' :: (newline (depth + 1) ++ (text ++ following close depth texts))

/-- The items of a list after its opening mark. -/
def enclosed (close : Char) (depth : ℕ) : List (List Char) → List Char
  | [] => [close]
  | text :: texts => newline (depth + 1) ++ (text ++ following close depth texts)

/-- An item, and the others as long as commas follow. -/
def items (item : List Char → Option (α × List Char)) (close : Char) :
    ℕ → List Char → Option (List α × List Char)
  | 0, _ => none
  | n + 1, cs =>
    match item (skipSpace cs) with
    | none => none
    | some (a, cs) =>
      match skipSpace cs with
      | [] => none
      | c :: cs =>
        if c = close then some ([a], cs)
        else if c = ',' then (items item close n cs).map fun p => (a :: p.1, p.2)
        else none

def sequence (item : List Char → Option (α × List Char)) (close : Char) (n : ℕ)
    (cs : List Char) : Option (List α × List Char) :=
  match skipSpace cs with
  | [] => none
  | c :: rest => if c = close then some ([], rest) else items item close n cs

/-- The text of one item. Its first character shows that it is not the end. -/
structure IsItem (item : List Char → Option (α × List Char)) (close : Char) (text : List Char)
    (a : α) : Prop where
  reads : Reads item text a
  head : ∃ c cs, text = c :: cs ∧ isSpace c = false ∧ c ≠ close

theorem stops_newline (depth : ℕ) (cs : List Char) : Stops (newline depth ++ cs) :=
  stops_cons (by decide) _

theorem stops_following (close : Char) (depth : ℕ) (texts : List (List Char))
    (rest : List Char) : Stops (following close depth texts ++ rest) := by
  cases texts with
  | nil =>
    rw [following, List.append_assoc]
    exact stops_newline depth _
  | cons text texts => exact stops_cons (by decide) _

theorem IsItem.skipSpace_eq {item : List Char → Option (α × List Char)} {close : Char}
    {text : List Char} {a : α} (h : IsItem item close text a) (depth : ℕ) (cs : List Char) :
    skipSpace (newline depth ++ (text ++ cs)) = text ++ cs := by
  obtain ⟨c, tail, rfl, hc, _⟩ := h.head
  rw [skipSpace_newline]
  exact skipSpace_cons hc _

/-- The items of a list are read one after the other. -/
theorem items_following {item : List Char → Option (α × List Char)} {close : Char}
    (hspace : isSpace close = false) (hcomma : close ≠ ',') {text : List Char} {a : α}
    {texts : List (List Char)} {as : List α} (ha : IsItem item close text a)
    (has : List.Forall₂ (IsItem item close) texts as) {n : ℕ} (hn : texts.length < n)
    (depth : ℕ) (rest : List Char) :
    items item close n
        (newline (depth + 1) ++ (text ++ (following close depth texts ++ rest))) =
      some (a :: as, rest) := by
  obtain ⟨n, rfl⟩ := Nat.exists_eq_succ_of_ne_zero (Nat.ne_zero_of_lt hn)
  induction has generalizing text a n with
  | nil =>
    have hread := ha.reads _ (stops_following close depth [] rest)
    have hclose : skipSpace (following close depth [] ++ rest) = close :: rest := by
      rw [following, List.append_assoc, skipSpace_newline]
      exact skipSpace_cons hspace rest
    rw [items, ha.skipSpace_eq, hread]
    simp only [hclose, if_true]
  | @cons text' a' texts as ha' has ih =>
    have hread := ha.reads _ (stops_following close depth (text' :: texts) rest)
    have hskip : skipSpace (following close depth (text' :: texts) ++ rest) =
        ',' :: (newline (depth + 1) ++ (text' ++ (following close depth texts ++ rest))) := by
      rw [following, List.cons_append, skipSpace_cons (by decide)]
      simp only [List.append_assoc]
    obtain ⟨n, rfl⟩ := Nat.exists_eq_succ_of_ne_zero
      (Nat.ne_zero_of_lt (Nat.lt_of_succ_lt_succ hn))
    rw [items, ha.skipSpace_eq, hread]
    simp only [hskip, if_neg (Ne.symm hcomma), if_true, ih ha' n (Nat.lt_of_succ_lt_succ hn)]
    rfl

/-- A list between marks is read back. -/
theorem sequence_enclosed {item : List Char → Option (α × List Char)} {close : Char}
    (hspace : isSpace close = false) (hcomma : close ≠ ',') {texts : List (List Char)}
    {as : List α} (has : List.Forall₂ (IsItem item close) texts as) {n : ℕ}
    (hn : texts.length ≤ n) (depth : ℕ) (rest : List Char) :
    sequence item close n (enclosed close depth texts ++ rest) = some (as, rest) := by
  cases has with
  | nil =>
    have hclose : skipSpace (enclosed close depth [] ++ rest) = close :: rest :=
      skipSpace_cons hspace rest
    simp only [sequence, hclose, if_true]
  | @cons text a texts as ha has =>
    obtain ⟨c, cs, hhead, hc, hne⟩ := ha.head
    have hskip : skipSpace (enclosed close depth (text :: texts) ++ rest) =
        c :: (cs ++ (following close depth texts ++ rest)) := by
      rw [enclosed, List.append_assoc, List.append_assoc, ha.skipSpace_eq, hhead,
        List.cons_append]
    rw [sequence, hskip]
    simp only [if_neg hne, enclosed, List.append_assoc]
    exact items_following hspace hcomma ha has hn depth rest

/-- The number of items, and each of them, is shorter than what follows. -/
theorem length_following (close : Char) (depth : ℕ) (texts : List (List Char)) :
    texts.length < (following close depth texts).length ∧
      ∀ text ∈ texts, text.length < (following close depth texts).length := by
  induction texts with
  | nil => simp [following]
  | cons head tail ih =>
    obtain ⟨hcount, hlength⟩ := ih
    simp only [following, List.length_cons, List.length_append, List.forall_mem_cons]
    refine ⟨by omega, by omega, ?_⟩
    intro text htext
    have htail := hlength text htext
    omega

theorem length_enclosed (close : Char) (depth : ℕ) (texts : List (List Char)) :
    texts.length ≤ (enclosed close depth texts).length ∧
      ∀ text ∈ texts, text.length ≤ (enclosed close depth texts).length := by
  cases texts with
  | nil => simp [enclosed]
  | cons head tail =>
    obtain ⟨hcount, hlength⟩ := length_following close depth tail
    simp only [enclosed, List.length_cons, List.length_append, List.forall_mem_cons]
    refine ⟨by omega, by omega, ?_⟩
    intro text htext
    have htail := hlength text htext
    omega

end Reading
