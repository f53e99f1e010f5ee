import QueryLint.Text.Lines

/-! Two notions of a line. Whoever numbers the lines of a source counts line feeds; the lines that
are cut out of it end at any line end. The second notion refines the first: each line by line feeds
falls into fragments at the other line ends in it. The two agree exactly as far as there are none. -/
namespace QueryLint.Text

/-- No line end stands in the line. -/
def Unbroken (line : List Char) : Prop := ∀ c ∈ line, isLineEnd c = false

/-- Every line end is a line feed or a carriage return with a line feed right behind it. -/
def FeedsOnly (text : List Char) : Prop :=
  ∀ (place : Nat) (c : Char), text[place]? = some c → isLineEnd c →
    c = '\n' ∨ c = '\r' ∧ text[place + 1]? = some '\n'

/-- A line without the carriage return at its end. -/
def dropReturn (line : List Char) : List Char :=
  if line.getLast? = some '\r' then line.dropLast else line

/-- The lines of a text as line feeds delimit them. A carriage return before a line feed belongs to
the delimiter, and what stands behind the last line feed is a line unless it is empty. -/
def feedLines (text : List Char) : List (List Char) :=
  let parts := text.splitOn '\n'
  parts.dropLast.map dropReturn ++ (parts.getLast?.filter (· ≠ [])).toList

/-- What the line ends in a line leave of it. -/
def fragments (line : List Char) : List (List Char) := line.splitOnP isLineEnd

/-- The text ends with a line end that is no line feed. -/
def endsAstray (text : List Char) : Bool := text.getLast?.any fun c => isLineEnd c && c != '\n'

/-- A text has no cuts, or it has a first one and a rest. -/
@[elab_as_elim]
theorem cut_induction (isCut : Char → Bool) {motive : List Char → Prop} (text : List Char)
    (whole : ∀ text, (∀ c ∈ text, isCut c = false) → motive text)
    (cut : ∀ before c after, (∀ d ∈ before, isCut d = false) → isCut c → motive after →
      motive (before ++ c :: after)) : motive text := by
  cases found : text.find? isCut with
  | none => exact whole text (by simpa using found)
  | some c =>
    obtain ⟨here, before, after, split, clear⟩ := List.find?_eq_some_iff_append.mp found
    have shorter : after.length < text.length := by
      rw [split, List.length_append, List.length_cons]
      omega
    rw [split]
    exact cut before c after (by simpa using clear) here (cut_induction isCut after whole cut)
termination_by text.length

variable {line text rest before after : List Char} {c : Char}

section Cutting

theorem firstLine_append (unbroken : Unbroken line) (rest : List Char) :
    firstLine (line ++ rest) = (line ++ (firstLine rest).1, (firstLine rest).2) := by
  induction line with
  | nil => rfl
  | cons c line ih =>
    obtain ⟨here, later⟩ := List.forall_mem_cons.mp unbroken
    have apart : c ≠ '\r' := by
      rintro rfl
      contradiction
    rw [List.cons_append, firstLine, here, ih later]
    · rfl
    · intro text same
      exact absurd same apart

theorem lines_eq (filled : text ≠ []) :
    lines text = (firstLine text).1 :: lines (firstLine text).2 := by
  cases text with
  | nil => contradiction
  | cons c text => rw [lines]

theorem lines_unbroken (unbroken : Unbroken line) (filled : line ≠ []) : lines line = [line] := by
  have first := firstLine_append unbroken []
  rw [List.append_nil] at first
  rw [lines_eq filled, first]
  simp [firstLine, lines]

/-- A line end closes a line, unless the line feed behind it is a part of it. -/
theorem lines_cut (unbroken : Unbroken before) (ends : isLineEnd c)
    (alone : c = '\r' → after.head? ≠ some '\n') :
    lines (before ++ c :: after) = before :: lines after := by
  rw [lines_eq (by simp), firstLine_append unbroken, firstLine, ends]
  · simp
  · rintro text rfl rfl
    exact alone rfl rfl

theorem lines_return_feed (unbroken : Unbroken before) :
    lines (before ++ '\r' :: '\n' :: after) = before :: lines after := by
  rw [lines_eq (by simp), firstLine_append unbroken, firstLine]
  simp

theorem unbroken_firstLine (text : List Char) : Unbroken (firstLine text).1 := by
  fun_induction firstLine text with
  | case1 | case2 | case3 => simp [Unbroken]
  | case4 c text _ inner line rest first ih =>
    rw [first] at ih
    exact List.forall_mem_cons.mpr ⟨by simpa using inner, ih⟩

theorem unbroken_of_mem_lines (member : line ∈ lines text) : Unbroken line := by
  fun_induction lines text with
  | case1 => contradiction
  | case2 c text ih =>
    rcases List.mem_cons.mp member with rfl | later
    · exact unbroken_firstLine _
    · exact ih later

end Cutting

section Fragments

theorem getLast?_behind (more : rest ≠ []) : (before ++ c :: rest).getLast? = rest.getLast? := by
  rw [List.getLast?_append, List.getLast?_cons_of_ne_nil more, List.getLast?_eq_some_getLast more]
  rfl

theorem head?_append_ne (inside : '\n' ∉ line) (filled : line ≠ []) (rest : List Char) :
    (line ++ rest).head? ≠ some '\n' := by
  obtain ⟨d, line, rfl⟩ := List.exists_cons_of_ne_nil filled
  exact fun first => inside (List.mem_of_mem_head? (show (d :: line).head? = some '\n' from first))

theorem dropReturn_concat (line : List Char) : dropReturn (line ++ ['\r']) = line := by
  simp [dropReturn]

theorem dropReturn_unbroken (unbroken : Unbroken line) : dropReturn line = line := by
  refine if_neg fun last => ?_
  have member := List.mem_of_getLast? last
  exact absurd (unbroken _ member) (by decide)

theorem dropReturn_cut (behind : c = '\r' → rest ≠ []) :
    dropReturn (before ++ c :: rest) = before ++ c :: dropReturn rest := by
  cases rest with
  | nil =>
    have other : c ≠ '\r' := fun same => behind same rfl
    simp [dropReturn, other]
  | cons d rest =>
    rw [dropReturn, dropReturn, getLast?_behind (by simp)]
    split
    · rw [List.dropLast_append_cons, List.dropLast_cons_of_ne_nil (by simp)]
    · rfl

theorem fragments_unbroken (unbroken : Unbroken line) : fragments line = [line] :=
  List.splitOnP_eq_singleton unbroken

theorem fragments_cut (unbroken : Unbroken before) (ends : isLineEnd c) (rest : List Char) :
    fragments (before ++ c :: rest) = before :: fragments rest :=
  List.splitOnP_append_cons_of_forall_mem unbroken c ends rest

/-- A line by line feeds falls into its fragments. -/
theorem lines_feed (inside : '\n' ∉ line) (rest : List Char) :
    lines (line ++ '\n' :: rest) = fragments (dropReturn line) ++ lines rest := by
  induction line using cut_induction isLineEnd with
  | whole line unbroken =>
    rw [dropReturn_unbroken unbroken, fragments_unbroken unbroken]
    exact lines_cut unbroken rfl (by simp)
  | cut before c after unbroken ends ih =>
    have later : '\n' ∉ after := fun member => inside (by simp [member])
    by_cases last : c = '\r' ∧ after = []
    · -- This line end is the carriage return that goes with the line feed.
      obtain ⟨rfl, rfl⟩ := last
      rw [dropReturn_concat, fragments_unbroken unbroken, List.append_assoc]
      exact lines_return_feed unbroken
    · have behind : c = '\r' → after ≠ [] := fun same empty => last ⟨same, empty⟩
      have alone : c = '\r' → (after ++ '\n' :: rest).head? ≠ some '\n' :=
        fun same => head?_append_ne later (behind same) _
      rw [dropReturn_cut behind, fragments_cut unbroken ends, List.append_assoc, List.cons_append,
        lines_cut unbroken ends alone, ih later]
      rfl

theorem endsAstray_unbroken (unbroken : Unbroken line) : endsAstray line = false := by
  cases last : line.getLast? with
  | none => simp [endsAstray, last]
  | some c => simp [endsAstray, last, unbroken c (List.mem_of_getLast? last)]

theorem endsAstray_behind (more : rest ≠ []) : endsAstray (before ++ c :: rest) = endsAstray rest := by
  rw [endsAstray, endsAstray, getLast?_behind more]

/-- Behind a line end at the very end there is no further line. -/
theorem fragments_last (inside : '\n' ∉ line) (filled : line ≠ []) :
    fragments line = lines line ++ if endsAstray line then [[]] else [] := by
  induction line using cut_induction isLineEnd with
  | whole line unbroken =>
    rw [fragments_unbroken unbroken, lines_unbroken unbroken filled, endsAstray_unbroken unbroken]
    rfl
  | cut before c after unbroken ends ih =>
    have other : c ≠ '\n' := fun same => inside (by simp [same])
    have later : '\n' ∉ after := fun member => inside (by simp [member])
    have alone : after.head? ≠ some '\n' := fun first => later (List.mem_of_mem_head? first)
    rw [fragments_cut unbroken ends, lines_cut unbroken ends fun _ => alone]
    by_cases more : after = []
    · simp [more, endsAstray, ends, other, fragments, lines]
    · rw [endsAstray_behind more, ih later more]
      rfl

end Fragments

section Feeds

theorem feedLines_last (inside : '\n' ∉ line) :
    feedLines line = if line = [] then [] else [line] := by
  rw [feedLines, List.splitOn_eq_singleton inside]
  by_cases empty : line = [] <;> simp [empty]

theorem feedLines_feed (inside : '\n' ∉ line) (rest : List Char) :
    feedLines (line ++ '\n' :: rest) = dropReturn line :: feedLines rest := by
  have parts : rest.splitOn '\n' ≠ [] := List.splitOnP_ne_nil _ rest
  simp only [feedLines, List.splitOn_append_cons_self, List.splitOn_eq_singleton inside,
    List.cons_append, List.nil_append, List.dropLast_cons_of_ne_nil parts,
    List.getLast?_cons_of_ne_nil parts, List.map_cons]

/-- A text has one line by line feeds, or it has a first one that a line feed ends. -/
@[elab_as_elim]
theorem feed_induction {motive : List Char → Prop} (text : List Char)
    (last : ∀ line, '\n' ∉ line → motive line)
    (feed : ∀ line rest, '\n' ∉ line → motive rest → motive (line ++ '\n' :: rest)) :
    motive text := by
  induction text using cut_induction (· == '\n') with
  | whole line inside => exact last line fun member => by simpa using inside _ member
  | cut line c rest inside ends ih =>
    rw [beq_iff_eq.mp ends]
    exact feed line rest (fun member => by simpa using inside _ member) ih

/-- What is cut out of a text are the fragments of its lines by line feeds. -/
theorem flatMap_fragments (text : List Char) :
    (feedLines text).flatMap fragments = lines text ++ if endsAstray text then [[]] else [] := by
  induction text using feed_induction with
  | last line inside =>
    rw [feedLines_last inside]
    by_cases empty : line = []
    · simp [empty, lines, endsAstray]
    · rw [if_neg empty, List.flatMap_singleton, fragments_last inside empty]
  | feed line rest inside ih =>
    have ending : endsAstray (line ++ '\n' :: rest) = endsAstray rest := by
      by_cases more : rest = []
      · simp [more, endsAstray]
      · exact endsAstray_behind more
    rw [feedLines_feed inside, List.flatMap_cons, ih, lines_feed inside, ending, List.append_assoc]

/-- A text that ends within a line has one line more than it has line feeds. -/
theorem length_feedLines (ends : text.getLast? = some c) (inside : c ≠ '\n') :
    (feedLines text).length = text.count '\n' + 1 := by
  induction text using feed_induction with
  | last line outside =>
    have filled : line ≠ [] := by
      rintro rfl
      contradiction
    rw [feedLines_last outside, if_neg filled, List.count_eq_zero.mpr outside]
    rfl
  | feed line rest outside ih =>
    have more : rest ≠ [] := by
      rintro rfl
      simp [Eq.comm, inside] at ends
    rw [getLast?_behind more] at ends
    rw [feedLines_feed outside, List.length_cons, ih ends, List.count_append,
      List.count_eq_zero.mpr outside, List.count_cons_self, Nat.zero_add]

end Feeds

section Agreement

theorem feedsOnly_cons : FeedsOnly (c :: text) ↔
    (isLineEnd c → c = '\n' ∨ c = '\r' ∧ text.head? = some '\n') ∧ FeedsOnly text := by
  constructor
  · intro only
    refine ⟨fun ends => ?_, fun place d here ends => only (place + 1) d here ends⟩
    simpa [List.head?_eq_getElem?] using only 0 c rfl ends
  · rintro ⟨first, later⟩ place d here ends
    cases place with
    | zero =>
      obtain rfl := Option.some.inj here
      simpa [List.head?_eq_getElem?] using first ends
    | succ place => exact later place d here ends

theorem unbroken_cons : Unbroken (c :: line) ↔ isLineEnd c = false ∧ Unbroken line :=
  List.forall_mem_cons

theorem feedsOnly_last (inside : '\n' ∉ line) : FeedsOnly line ↔ Unbroken line := by
  induction line with
  | nil => simp [FeedsOnly, Unbroken]
  | cons c line ih =>
    obtain ⟨other, later⟩ := List.ne_and_not_mem_of_not_mem_cons inside
    have next : line.head? ≠ some '\n' := fun first => later (List.mem_of_mem_head? first)
    rw [feedsOnly_cons, unbroken_cons, ih later]
    simp [other.symm, next]

theorem feedsOnly_feed (inside : '\n' ∉ line) :
    FeedsOnly (line ++ '\n' :: rest) ↔ Unbroken (dropReturn line) ∧ FeedsOnly rest := by
  induction line with
  | nil => simp [feedsOnly_cons, dropReturn, Unbroken]
  | cons c line ih =>
    obtain ⟨other, later⟩ := List.ne_and_not_mem_of_not_mem_cons inside
    by_cases last : c = '\r' ∧ line = []
    · obtain ⟨rfl, rfl⟩ := last
      simp [feedsOnly_cons, dropReturn, Unbroken]
    · have behind : c = '\r' → line ≠ [] := fun same empty => last ⟨same, empty⟩
      have alone : ¬ (c = '\r' ∧ (line ++ '\n' :: rest).head? = some '\n') := by
        rintro ⟨same, next⟩
        exact head?_append_ne later (behind same) _ next
      have dropped : dropReturn (c :: line) = c :: dropReturn line :=
        @dropReturn_cut line [] c behind
      rw [List.cons_append, feedsOnly_cons, dropped, unbroken_cons, ih later, and_assoc]
      simp only [other.symm, alone, or_false, imp_false, Bool.not_eq_true]

theorem feedsOnly_iff : FeedsOnly text ↔ ∀ line ∈ feedLines text, Unbroken line := by
  induction text using feed_induction with
  | last line inside =>
    rw [feedsOnly_last inside, feedLines_last inside]
    by_cases empty : line = []
    · simp [empty, Unbroken]
    · simp [empty]
  | feed line rest inside ih =>
    rw [feedsOnly_feed inside, feedLines_feed inside, List.forall_mem_cons, ih]

theorem endsAstray_feedsOnly (only : FeedsOnly text) : endsAstray text = false := by
  cases last : text.getLast? with
  | none => simp [endsAstray, last]
  | some c =>
    have here : text[text.length - 1]? = some c := List.getLast?_eq_getElem? ▸ last
    have behind : text[text.length - 1 + 1]? = none := by
      rw [List.getElem?_eq_none_iff]
      omega
    have feed : isLineEnd c → c = '\n' := by simpa [behind] using only _ c here
    simpa [endsAstray, last] using feed

theorem flatMap_unbroken {clear : List (List Char)} (unbroken : ∀ line ∈ clear, Unbroken line) :
    clear.flatMap fragments = clear := by
  induction clear with
  | nil => rfl
  | cons line clear ih =>
    obtain ⟨here, later⟩ := List.forall_mem_cons.mp unbroken
    rw [List.flatMap_cons, fragments_unbroken here, ih later]
    rfl

/-- As long as no line end stands in the lines by line feeds, they are the lines cut out. -/
theorem exists_lines_append {clear others : List (List Char)}
    (split : feedLines text = clear ++ others) (unbroken : ∀ line ∈ clear, Unbroken line) :
    ∃ more, lines text = clear ++ more ∧ (others = [] → more = []) := by
  have whole := flatMap_fragments text
  rw [split, List.flatMap_append, flatMap_unbroken unbroken] at whole
  cases others with
  | nil =>
    have only : FeedsOnly text := feedsOnly_iff.mpr (by simpa [split] using unbroken)
    rw [endsAstray_feedsOnly only] at whole
    exact ⟨[], by simpa using whole.symm, fun _ => rfl⟩
  | cons line others =>
    have filled : (line :: others).flatMap fragments ≠ [] := by
      simp [fragments, List.splitOnP_ne_nil]
    cases astray : endsAstray text with
    | false =>
      rw [astray] at whole
      exact ⟨_, by simpa using whole.symm, by simp⟩
    | true =>
      -- The fragment that does not count is the last one, behind the clear lines.
      rw [astray, if_pos rfl] at whole
      have shorter := congrArg List.dropLast whole
      rw [List.dropLast_concat, List.dropLast_append_of_ne_nil filled] at shorter
      exact ⟨_, shorter.symm, by simp⟩

/-- The two notions agree on the first lines exactly if no line end stands in these. -/
theorem getElem?_lines_iff (text : List Char) (count : Nat) :
    (∀ place < count, (lines text)[place]? = (feedLines text)[place]?) ↔
      ∀ line ∈ (feedLines text).take count, Unbroken line := by
  constructor
  · intro agree line member
    obtain ⟨place, here⟩ := List.getElem?_of_mem member
    rw [List.getElem?_take] at here
    split at here
    · rename_i bound
      exact unbroken_of_mem_lines (List.mem_of_getElem? ((agree place bound).trans here))
    · contradiction
  · intro unbroken place bound
    obtain ⟨more, agree, ending⟩ :=
      exists_lines_append (List.take_append_drop count (feedLines text)).symm unbroken
    have here : ((feedLines text).take count)[place]? = (feedLines text)[place]? := by
      rw [List.getElem?_take, if_pos bound]
    rw [agree, ← here, List.getElem?_append]
    split
    · rfl
    · rename_i beyond
      have outside : (feedLines text).length ≤ place := by
        rw [List.length_take] at beyond
        omega
      rw [ending (List.drop_eq_nil_of_le (by omega)), here, List.getElem?_eq_none outside]
      rfl

/-- The two notions agree exactly if every line end belongs to a line feed. -/
theorem lines_eq_feedLines_iff : lines text = feedLines text ↔ FeedsOnly text := by
  rw [feedsOnly_iff]
  constructor
  · intro same line member
    exact unbroken_of_mem_lines (same ▸ member)
  · intro unbroken
    obtain ⟨more, agree, ending⟩ := exists_lines_append (List.append_nil _).symm unbroken
    rw [agree, ending rfl, List.append_nil]

end Agreement

end QueryLint.Text
