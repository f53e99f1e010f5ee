import QueryLint.Document.Snippet
import QueryLint.Literal
import QueryLint.Proofs.Text.Lines

/-! What a snippet shows. It is a window on the lines of the source around one of them. These are
not always the lines that tokens are numbered by: a line end that is no line feed makes two lines
of one, and from there on a snippet is taken from further up than the number says. -/
namespace QueryLint

/-- The snippet is the run of the lines that stand no further than `context` from a line. -/
structure Snippet.Shows (snippet : Snippet) (lines : List String) (line context : Int) : Prop where
  code : lines[(line - 1).toNat]? = some snippet.code
  number : snippet.line = line
  run : ∃ above below, lines = above ++ (snippet.before ++ snippet.code :: snippet.after) ++ below ∧
    (above.length : Int) + 1 = max 1 (line - context) ∧
    (lines.length : Int) - below.length = min (lines.length : Int) (line + context)
  before : (snippet.before.length : Int) = min context (line - 1)
  after : (snippet.after.length : Int) = min context (lines.length - line)

namespace Document

variable {document : Document} {line context : Int} {snippet : Snippet} {lines : List String}
  {place reach : Nat}

theorem takeTo_natCast (lines : List String) (stop : Nat) :
    takeTo lines (min lines.length stop) = lines.take stop := by
  have positive : ¬ min (lines.length : Int) stop < 0 := by omega
  have stops : (min (lines.length : Int) stop).toNat = min stop lines.length := by omega
  rw [takeTo, if_neg positive, stops, ← List.take_take, List.take_length]

/-- A snippet by the position of its line, with the lines before and behind it cut by position. -/
theorem snippet?_natCast (document : Document) (place reach : Nat) :
    document.snippet? (place + 1) reach = (document.lines[place]?).map fun code =>
      { code
        line := place + 1
        before := (document.lines.take place).drop (place - reach)
        after := (document.lines.take (place + 1 + reach)).drop (place + 1) } := by
  have positive : ¬ (place : Int) + 1 < 1 := by omega
  have here : ((place : Int) + 1).toNat = place + 1 := by omega
  have start : ((place : Int) + 1 - reach - 1).toNat = place - reach := by omega
  have stop := takeTo_natCast document.lines (place + 1 + reach)
  push_cast at stop
  simp only [snippet?, if_neg positive, here, start, stop, Nat.add_sub_cancel]

theorem snippet?_of_nonpositive (nonpositive : line < 1) : document.snippet? line context = none :=
  if_pos nonpositive

theorem snippet?_eq_none_iff :
    document.snippet? line context = none ↔ line < 1 ∨ document.lines.length < line := by
  by_cases nonpositive : line < 1
  · simp [nonpositive, snippet?_of_nonpositive]
  · simp only [snippet?, if_neg nonpositive, Option.map_eq_none_iff, List.getElem?_eq_none_iff]
    omega

theorem split_around (inside : place < lines.length) (reach : Nat) :
    lines = lines.take (place - reach) ++
      ((lines.take place).drop (place - reach) ++
        lines[place] :: (lines.take (place + 1 + reach)).drop (place + 1)) ++
      lines.drop (place + 1 + reach) := by
  have above : lines.take (place - reach) ++ (lines.take place).drop (place - reach) =
      lines.take place := by
    have whole := List.take_append_drop (place - reach) (lines.take place)
    rwa [List.take_take, Nat.min_eq_left (Nat.sub_le place reach)] at whole
  have below : lines.take place ++ lines[place] :: (lines.take (place + 1 + reach)).drop (place + 1) =
      lines.take (place + 1 + reach) := by
    have whole := List.take_append_drop (place + 1) (lines.take (place + 1 + reach))
    rw [List.take_take, Nat.min_eq_left (Nat.le_add_right _ _),
      List.take_succ_eq_append_getElem inside, List.append_assoc] at whole
    exact whole
  rw [← List.append_assoc, above, below, List.take_append_drop]

theorem shows_natCast (inside : place < document.lines.length)
    (found : document.snippet? (place + 1) reach = some snippet) :
    snippet.Shows document.lines (place + 1) reach := by
  rw [snippet?_natCast, List.getElem?_eq_getElem inside, Option.map_some, Option.some.injEq] at found
  subst found
  refine {
    code := by simp [inside]
    number := rfl
    run := ⟨_, _, split_around inside reach, ?_, ?_⟩
    before := ?_
    after := ?_ }
  · rw [List.length_take]
    omega
  · rw [List.length_drop]
    omega
  · rw [List.length_drop, List.length_take]
    omega
  · rw [List.length_drop, List.length_take]
    omega

/-- A snippet is exactly a window on the lines of the source. -/
theorem snippet?_window (document : Document) (line : Int) (nonnegative : 0 ≤ context) :
    (document.snippet? line context = none ↔ line < 1 ∨ document.lines.length < line) ∧
    ∀ snippet, document.snippet? line context = some snippet →
      snippet.Shows document.lines line context := by
  refine ⟨snippet?_eq_none_iff, fun snippet found => ?_⟩
  have present : ¬ (line < 1 ∨ document.lines.length < line) := by
    rw [← snippet?_eq_none_iff, found]
    simp
  obtain ⟨place, rfl⟩ : ∃ place : Nat, line = place + 1 := ⟨(line - 1).toNat, by omega⟩
  obtain ⟨reach, rfl⟩ := Int.eq_ofNat_of_zero_le nonnegative
  exact shows_natCast (by omega) found

/-- A source with lines that end in both ways, the last of them open. -/
def portable : Document where
  pool := #[]
  members := []
  source := some "use strict;\r\n\nexit;"

/-- A context that is wider than the source shows all of it. -/
theorem portable_window :
    portable.snippet? 4 7 = none ∧ ∃ snippet, portable.snippet? 2 7 = some snippet ∧
      snippet.Shows portable.lines 2 7 ∧
      snippet.before ++ snippet.code :: snippet.after = portable.lines := by
  have wide : (0 : Int) ≤ 7 := by decide
  have count : portable.lines.length = 3 := by decide +kernel
  refine ⟨(portable.snippet?_window 4 wide).1.mpr (.inr (by rw [count]; decide)), ?_⟩
  obtain ⟨snippet, found⟩ : ∃ snippet, portable.snippet? 2 7 = some snippet :=
    Option.isSome_iff_exists.mp (by decide +kernel)
  have shows := (portable.snippet?_window 2 wide).2 snippet found
  obtain ⟨above, below, run, first, last⟩ := shows.run
  rw [count] at last
  obtain rfl := List.eq_nil_of_length_eq_zero (show above.length = 0 by omega)
  obtain rfl := List.eq_nil_of_length_eq_zero (show below.length = 0 by omega)
  exact ⟨snippet, found, shows, by simpa using run.symm⟩

def text (document : Document) : List Char := (document.source.getD "").toList

/-- The line that the snippet for some line number shows. -/
def shown (document : Document) (line context : Int) : Option (List Char) :=
  (document.snippet? line context).map (·.code.toList)

theorem shown_natCast (document : Document) (place : Nat) (context : Int) :
    document.shown (place + 1) context = (Text.lines document.text)[place]? := by
  have positive : ¬ (place : Int) + 1 < 1 := by omega
  have lines : document.lines = (Text.lines document.text).map String.ofList := by
    cases source : document.source with
    | none => simp [Document.lines, text, source, Text.lines]
    | some source => simp [Document.lines, text, source]
  simp [shown, snippet?, positive, lines, Function.comp_def]

theorem shown_eq (positive : 1 ≤ line) :
    document.shown line context = (Text.lines document.text)[(line - 1).toNat]? := by
  obtain ⟨place, rfl⟩ : ∃ place : Nat, line = place + 1 := ⟨(line - 1).toNat, by omega⟩
  rw [shown_natCast, Int.add_sub_cancel, Int.toNat_natCast]

/-- A token that ends within a line has its effective line counted by line feeds. -/
theorem effectiveLine_eq_length {token : Token} {before : List Char} {c : Char}
    (placed : token.line = 1 + before.count '\n')
    (ends : (before ++ token.content.toList).getLast? = some c) (inside : c ≠ '\n') :
    ((Text.feedLines (before ++ token.content.toList)).length : Int) = token.effectiveLine := by
  rw [Text.length_feedLines ends inside, Token.effectiveLine, placed, List.count_append]
  omega

/-- Snippets go by the lines that line feeds delimit, by which effective lines are counted too, up
to the first line with another line end in it. So they always do exactly if every line end of the
source is a line feed or the carriage return before one. In general they go by the fragments of
these lines, of which an empty one behind the last line end does not count. -/
theorem shown_feedLines (document : Document) (context : Int) :
    (∀ count : Nat, (∀ place < count,
        document.shown (place + 1) context = (Text.feedLines document.text)[place]?) ↔
      ∀ line ∈ (Text.feedLines document.text).take count, Text.Unbroken line) ∧
    ((∀ line, 1 ≤ line →
        document.shown line context = (Text.feedLines document.text)[(line - 1).toNat]?) ↔
      Text.FeedsOnly document.text) ∧
    (∃ cut, (∀ line, 1 ≤ line → document.shown line context = cut[(line - 1).toNat]?) ∧
      (Text.feedLines document.text).flatMap Text.fragments =
        cut ++ if Text.endsAstray document.text then [[]] else []) ∧
    ∀ (token : Token) (before : List Char) (c : Char), token.line = 1 + before.count '\n' →
      (before ++ token.content.toList).getLast? = some c → c ≠ '\n' →
      ((Text.feedLines (before ++ token.content.toList)).length : Int) = token.effectiveLine := by
  refine ⟨fun count => ?_, ?_, ⟨Text.lines document.text, fun line => shown_eq, ?_⟩, ?_⟩
  · simp only [shown_natCast]
    exact Text.getElem?_lines_iff document.text count
  · rw [← Text.lines_eq_feedLines_iff]
    constructor
    · intro agree
      refine List.ext_getElem? fun place => ?_
      have here := agree (place + 1) (by omega)
      rwa [shown_natCast, Int.add_sub_cancel, Int.toNat_natCast] at here
    · intro same line positive
      rw [shown_eq positive, same]
  · exact Text.flatMap_fragments document.text
  · intro token before c placed ends inside
    exact effectiveLine_eq_length placed ends inside

theorem portable_shown :
    Text.FeedsOnly portable.text ∧
    portable.shown 3 3 = some "exit;".toList ∧ portable.shown 4 3 = none := by
  have only : Text.FeedsOnly portable.text := by
    rw [← Text.lines_eq_feedLines_iff]
    decide +kernel
  have agree := (portable.shown_feedLines 3).2.1.mpr only
  exact ⟨only, (agree 3 (by decide)).trans (by decide +kernel),
    (agree 4 (by decide)).trans (by decide +kernel)⟩

/-- A source with a form feed before its second line. -/
def paged : Document where
  pool := #[]
  members := []
  source := some "use strict;\n\x0crun();\nexit;\n"

/-- For the third line the second one is shown, without its form feed. -/
theorem shown_drifts :
    ¬ ∀ (document : Document) (line context : Int), 1 ≤ line →
      document.shown line context = (Text.feedLines document.text)[(line - 1).toNat]? := by
  intro agree
  have cut : paged.shown 3 3 = some "run();".toList := by decide +kernel
  have fed : (Text.feedLines paged.text)[2]? = some "exit;".toList := by decide +kernel
  exact absurd (cut.symm.trans ((agree paged 3 3 (by decide)).trans fed)) (by decide)

end Document

end QueryLint
