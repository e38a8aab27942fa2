
set_option autoImplicit false

namespace MarketLink.Text

def isBlank (c : Char) : Bool :=
  let n := c.toNat
  (9 ≤ n && n ≤ 13) || n == 0x20 || n == 0x85 || n == 0xA0 || n == 0x1680 ||
    (0x2000 ≤ n && n ≤ 0x200A) || n == 0x2028 || n == 0x2029 || n == 0x202F || n == 0x205F ||
    n == 0x3000

def skipBlanks (cs : List Char) : List Char := cs.dropWhile isBlank

def trimBlanks (cs : List Char) : List Char :=
  (skipBlanks (skipBlanks cs).reverse).reverse

def trim (s : String) : String := String.ofList (trimBlanks s.toList)

private def wordStep (state : List Char × List (List Char)) (c : Char) :
    List Char × List (List Char) :=
  if isBlank c then
    if state.1.isEmpty then state else ([], state.1.reverse :: state.2)
  else (c :: state.1, state.2)

def words (cs : List Char) : List (List Char) :=
  let (last, done) := cs.foldl wordStep ([], [])
  (if last.isEmpty then done else last.reverse :: done).reverse

private theorem foldl_wordStep_of_solid {cs : List Char} (solid : ∀ c ∈ cs, isBlank c = false)
    (word : List Char) (done : List (List Char)) :
    cs.foldl wordStep (word, done) = (cs.reverse ++ word, done) := by
  induction cs generalizing word with
  | nil => rfl
  | cons c cs ih =>
    rw [List.forall_mem_cons] at solid
    have step : wordStep (word, done) c = (c :: word, done) := by
      unfold wordStep
      rw [solid.1, if_neg Bool.false_ne_true]
    rw [List.foldl_cons, step, ih solid.2, List.reverse_cons, List.append_assoc,
      List.singleton_append]

private theorem foldl_wordStep_done (cs word : List Char) (done : List (List Char)) :
    cs.foldl wordStep (word, done) =
      ((cs.foldl wordStep (word, [])).1, (cs.foldl wordStep (word, [])).2 ++ done) := by
  induction cs generalizing word done with
  | nil => rfl
  | cons c cs ih =>
    have step : wordStep (word, done) c =
        ((wordStep (word, []) c).1, (wordStep (word, []) c).2 ++ done) := by
      unfold wordStep
      split
      · split <;> rfl
      · rfl
    rw [List.foldl_cons, List.foldl_cons, step, ih,
      ih (wordStep (word, []) c).1 (wordStep (word, []) c).2,
      List.append_assoc]

theorem words_of_solid {cs : List Char} (filled : cs ≠ []) (solid : ∀ c ∈ cs, isBlank c = false) :
    words cs = [cs] := by
  unfold words
  simp only [foldl_wordStep_of_solid solid, List.append_nil, List.isEmpty_reverse,
    List.isEmpty_eq_false_iff.mpr filled, Bool.false_eq_true, ↓reduceIte, List.reverse_reverse,
    List.reverse_singleton]

theorem words_append_blank {word : List Char} (filled : word ≠ [])
    (solid : ∀ c ∈ word, isBlank c = false) {blank : Char} (isBlank_blank : isBlank blank = true)
    (rest : List Char) :
    words (word ++ blank :: rest) = word :: words rest := by
  have ended : wordStep (word.reverse ++ [], []) blank = ([], [word]) := by
    unfold wordStep
    simp only [isBlank_blank, ↓reduceIte, List.append_nil, List.isEmpty_reverse,
      List.isEmpty_eq_false_iff.mpr filled, Bool.false_eq_true, List.reverse_reverse]
  unfold words
  rw [List.foldl_append, foldl_wordStep_of_solid solid, List.foldl_cons, ended, foldl_wordStep_done]
  dsimp only
  split
  · rw [List.reverse_append, List.reverse_singleton, List.singleton_append]
  · rw [← List.cons_append, List.reverse_append, List.reverse_singleton, List.singleton_append]

def isBlankText (s : String) : Bool := s.toList.all isBlank

end MarketLink.Text
