/-! Removing every copy of a word from a text. -/
namespace QueryLint.Text

/-- Removes the copies of `word` that do not overlap, from left to right. -/
def erase (word : List Char) : List Char → List Char
  | [] => []
  | c :: text =>
    if word.isPrefixOf (c :: text) then erase word (text.drop (word.length - 1))
    else c :: erase word text
termination_by text => text.length
decreasing_by
  · simp only [List.length_drop, List.length_cons]
    omega
  · simp

theorem length_erase_le (word text : List Char) : (erase word text).length ≤ text.length := by
  fun_induction erase word text with
  | case1 => simp
  | case2 c text start ih =>
    simp only [List.length_drop, List.length_cons] at ih ⊢
    omega
  | case3 c text start ih =>
    simp only [List.length_cons]
    omega

theorem length_erase_add_le {word text before after : List Char} (some : word ≠ [])
    (found : text = before ++ word ++ after) :
    (erase word text).length + word.length ≤ text.length := by
  have positive := List.length_pos_iff.mpr some
  fun_induction erase word text generalizing before with
  | case1 => simp_all
  | case2 c text start ih =>
    have prefixed := (List.isPrefixOf_iff_prefix.mp start).length_le
    have rest := length_erase_le word (text.drop (word.length - 1))
    simp only [List.length_drop, List.length_cons] at rest prefixed ⊢
    omega
  | case3 c text start ih =>
    cases before with
    | nil =>
      exfalso
      exact start (List.isPrefixOf_iff_prefix.mpr ⟨after, by simp [found]⟩)
    | cons b before =>
      simp only [List.cons_append, List.cons.injEq] at found
      have := ih found.2
      simp only [List.length_cons]
      omega

end QueryLint.Text
