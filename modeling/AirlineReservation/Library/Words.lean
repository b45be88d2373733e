import Mathlib.Data.List.TakeWhile

/-!
Texts read as words and marks. A word is a maximal run of word letters, spaces
only separate, and any other letter is a mark. The main result is about a text
with a hole: what is put there is read as one word exactly when it has word
letters only.
-/

namespace Words

inductive Token (α : Type*)
  | word (letters : List α)
  | mark (letter : α)
  deriving DecidableEq

variable {α : Type*} (isWord isSpace : α → Bool)

/-- The word that has been read so far, if there is one. -/
def flush : List α → List (Token α)
  | [] => []
  | a :: letters => [.word (a :: letters)]

/-- The tokens of a text behind the letters of an unfinished word. -/
def scan : List α → List α → List (Token α)
  | letters, [] => flush letters
  | letters, a :: rest =>
    if isWord a then scan (letters ++ [a]) rest
    else if isSpace a then flush letters ++ scan [] rest
    else flush letters ++ .mark a :: scan [] rest

def tokens (text : List α) : List (Token α) := scan isWord isSpace [] text

/-- A word ends where the text begins. -/
def Apart (text : List α) : Prop := ∀ a ∈ text.head?, isWord a = false

variable {isWord isSpace}

theorem scan_word {w : List α} (hw : ∀ a ∈ w, isWord a = true) (letters rest : List α) :
    scan isWord isSpace letters (w ++ rest) = scan isWord isSpace (letters ++ w) rest := by
  induction w generalizing letters with
  | nil => rw [List.append_nil, List.nil_append]
  | cons a w ih =>
    have ha : isWord a = true := hw a List.mem_cons_self
    rw [List.cons_append, scan, if_pos ha, ih (fun b hb => hw b (List.mem_cons_of_mem a hb)),
      List.append_assoc, List.singleton_append]

theorem scan_of_apart {text : List α} (h : Apart isWord text) (letters : List α) :
    scan isWord isSpace letters text = flush letters ++ tokens isWord isSpace text := by
  cases text with
  | nil => exact (List.append_nil _).symm
  | cons a rest =>
    have ha : ¬ isWord a = true := by simp [h a rfl]
    rw [tokens, scan, scan, if_neg ha, if_neg ha]
    split <;> rfl

theorem scan_append_of_apart {text : List α} (h : Apart isWord text) (letters before : List α) :
    scan isWord isSpace letters (before ++ text) =
      scan isWord isSpace letters before ++ tokens isWord isSpace text := by
  induction before generalizing letters with
  | nil => exact scan_of_apart h letters
  | cons a before ih =>
    rw [List.cons_append, scan, scan]
    by_cases ha : isWord a = true
    · rw [if_pos ha, if_pos ha, ih]
    · rw [if_neg ha, if_neg ha, ih]
      split
      · rw [List.append_assoc]
      · rw [List.append_assoc, List.cons_append]

theorem tokens_append_of_apart {text : List α} (h : Apart isWord text) (before : List α) :
    tokens isWord isSpace (before ++ text) =
      tokens isWord isSpace before ++ tokens isWord isSpace text :=
  scan_append_of_apart h [] before

/-- Behind a letter that is in no word the text is read as if it began there. -/
theorem tokens_append_of_ends {a : α} (ha : isWord a = false) (before text : List α) :
    tokens isWord isSpace (before ++ [a] ++ text) =
      tokens isWord isSpace (before ++ [a]) ++ tokens isWord isSpace text := by
  have hapart : ∀ rest, Apart isWord (a :: rest) := by
    intro rest b hb
    rw [← Option.some.inj hb, ha]
  have hone : tokens isWord isSpace (a :: text) =
      tokens isWord isSpace [a] ++ tokens isWord isSpace text := by
    have hnot : ¬ isWord a = true := by simp [ha]
    rw [tokens, tokens, scan, scan, if_neg hnot, if_neg hnot]
    split <;> rfl
  rw [List.append_assoc, List.singleton_append, tokens_append_of_apart (hapart text), hone,
    tokens_append_of_apart (hapart []), List.append_assoc]

theorem tokens_word_append {w text : List α} (hw : ∀ a ∈ w, isWord a = true) (hne : w ≠ [])
    (h : Apart isWord text) :
    tokens isWord isSpace (w ++ text) = .word w :: tokens isWord isSpace text := by
  obtain ⟨a, letters, rfl⟩ := List.exists_cons_of_ne_nil hne
  rw [tokens, scan_word hw, List.nil_append, scan_of_apart h]
  rfl

/-- A name that begins with a word letter is read as a word of its first letters. -/
theorem tokens_name_append {a : α} {name text : List α} (ha : isWord a = true)
    (h : Apart isWord text) :
    ∃ rest, tokens isWord isSpace (a :: name ++ text) =
      .word (a :: name.takeWhile isWord) :: rest := by
  have hsplit : a :: name ++ text =
      a :: name.takeWhile isWord ++ (name.dropWhile isWord ++ text) := by
    rw [List.cons_append, List.cons_append, ← List.append_assoc, List.takeWhile_append_dropWhile]
  have hw : ∀ b ∈ a :: name.takeWhile isWord, isWord b = true := by
    intro b hb
    rcases List.mem_cons.mp hb with rfl | hb
    · exact ha
    · exact List.mem_takeWhile_imp hb
  have hapart : Apart isWord (name.dropWhile isWord ++ text) := by
    intro b hb
    cases hdrop : name.dropWhile isWord with
    | nil =>
      rw [hdrop] at hb
      exact h b hb
    | cons c rest =>
      rw [hdrop] at hb
      have hc := List.head?_dropWhile_not isWord name
      rw [hdrop] at hc
      rw [← Option.some.inj hb]
      simpa using hc
  rw [hsplit]
  exact ⟨_, tokens_word_append hw (List.cons_ne_nil a _) hapart⟩

/-- What stands in the hole of a text is read as one word exactly when it has word
letters only. The text before the hole ends with a letter of no word, and the
text behind it begins with one. -/
theorem tokens_hole_iff {a c : α} {before name text : List α} (hc : isWord c = false)
    (ha : isWord a = true) (h : Apart isWord text) :
    tokens isWord isSpace (before ++ [c] ++ (a :: name) ++ text) =
      tokens isWord isSpace (before ++ [c]) ++ .word (a :: name) :: tokens isWord isSpace text ↔
    ∀ b ∈ name, isWord b = true := by
  rw [List.append_assoc (before ++ [c]), tokens_append_of_ends hc, List.append_cancel_left_eq]
  constructor
  · intro heq
    have hfirst : ∃ rest, tokens isWord isSpace (a :: name ++ text) =
        .word (a :: name.takeWhile isWord) :: rest := tokens_name_append ha h
    obtain ⟨rest, hrest⟩ := hfirst
    rw [hrest] at heq
    have hwhole : name.takeWhile isWord = name := by
      simpa using (List.cons.inj heq).1
    intro b hb
    rw [← hwhole] at hb
    exact List.mem_takeWhile_imp hb
  · intro hname
    apply tokens_word_append _ (List.cons_ne_nil a name) h
    intro b hb
    rcases List.mem_cons.mp hb with rfl | hb
    · exact ha
    · exact hname b hb

end Words
