import MailSearch.CommandLine.Run
import Mathlib.Data.List.SplitBy
import Mathlib.Data.List.TakeWhile

/-!
# What laying out a text keeps

A text that is laid out fits the terminal: no line is wider than the width it is laid out for
(`Layout.cells_le_of_mem_lay`), and so is no line of a report (`cells_le_of_mem_reportLines`). The
lines of a table are all of one width (`Table.cells_of_mem_lines`). A text that fits on one line is
shown as it is (`Layout.lay_of_fits`).

Where words are folded the reader loses nothing but blanks. Breaking a line keeps all its characters
(`Layout.flatten_breakLine`), and a line that is broken off needs no more room than there is, up to
the blanks at its end (`Layout.Filling.Fits`), so all that is cut off there are blanks
(`Layout.visible_lay`).
-/

namespace MailSearch

/-! ### Blanks at the end -/

namespace Text

variable {cs rest : List Char}

/-- What is trimmed off the end is of the class. -/
theorem exists_trimEnd_append (p : Char → Bool) (cs : List Char) :
    ∃ run : List Char, (∀ c ∈ run, p c = true) ∧ trimEnd p cs ++ run = cs := by
  refine ⟨(cs.reverse.takeWhile p).reverse, fun c hc => ?_, ?_⟩
  · exact List.mem_takeWhile_imp (List.mem_reverse.1 hc)
  · rw [trimEnd, ← List.reverse_append, List.takeWhile_append_dropWhile, List.reverse_reverse]

/-- Trimming a text at its end goes further than trimming its last part only where nothing is left
of that. -/
theorem trimEnd_append_isPrefix (p : Char → Bool) (cs rest : List Char) :
    trimEnd p (cs ++ rest) <+: cs ++ trimEnd p rest := by
  obtain ⟨run, -, hrun⟩ := exists_trimEnd_append p cs
  unfold trimEnd
  rw [List.reverse_append, List.dropWhile_append]
  split
  · rename_i hempty
    rw [List.isEmpty_iff.1 hempty, List.reverse_nil, List.append_nil]
    exact ⟨run, hrun⟩
  · refine ⟨[], ?_⟩
    rw [List.append_nil, List.reverse_append, List.reverse_reverse]

theorem cells_le_of_isPrefix (h : cs <+: rest) : cells cs ≤ cells rest := by
  obtain ⟨more, rfl⟩ := h
  rw [cells_append]
  omega

theorem cells_trimEnd_le (p : Char → Bool) (cs : List Char) : cells (trimEnd p cs) ≤ cells cs := by
  obtain ⟨run, -, hrun⟩ := exists_trimEnd_append p cs
  exact cells_le_of_isPrefix ⟨run, hrun⟩

end Text

namespace CommandLine

open Text

namespace Layout

variable {overflow : Overflow} {width : Nat} {line : List Char}

/-! ### The width -/

theorem cells_pad (h : cells line ≤ width) : cells (pad width line) = width := by
  have hblank : cellWidth ' ' = 1 := by decide
  rw [pad, cells_append, cells_replicate, hblank]
  omega

theorem cells_takeCells_le (width : Nat) (line : List Char) :
    cells (takeCells width line) ≤ width := by
  induction line generalizing width with
  | nil => exact Nat.zero_le width
  | cons c rest ih =>
    unfold takeCells
    split
    · have hrest := ih (width - cellWidth c)
      rw [cells_cons]
      omega
    · exact Nat.zero_le width

/-- A line that is cut off fits. The ellipsis needs a cell of its own. -/
theorem cells_clip_le (hwidth : 1 ≤ width) (line : List Char) :
    cells (clip overflow width line) ≤ width := by
  unfold clip
  split
  · assumption
  · cases overflow with
    | fold => exact (cells_pad (cells_takeCells_le width line)).le
    | ellipsis =>
      have hellipsis : cells ['…'] = 1 := by decide +kernel
      show cells (pad (width - 1) (takeCells (width - 1) line) ++ ['…']) ≤ width
      rw [cells_append, cells_pad (cells_takeCells_le (width - 1) line), hellipsis]
      omega

/-- **No line is wider than the width**, whatever is laid out. -/
theorem cells_le_of_mem_lay {text : String} (hwidth : 1 ≤ width)
    (h : line ∈ lay overflow width text) : cells line ≤ width := by
  obtain ⟨source, -, hline⟩ := List.mem_flatMap.1 h
  obtain ⟨broken, -, rfl⟩ := List.mem_map.1 hline
  exact cells_clip_le hwidth (dropExcess width broken)

/-! ### Breaking keeps the characters -/

theorem flatten_words (cs : List Char) : (words cs).flatten = cs := by
  have hparts := List.takeWhile_append_dropWhile (p := isBlank) (l := cs)
  have hsplit := List.flatten_splitBy (fun c next => !isBlank c || isBlank next)
    (cs.dropWhile isBlank)
  unfold words
  split
  · simp
  · rename_i first rest hwords
    rw [hwords, List.flatten_cons] at hsplit
    rw [List.flatten_cons, List.append_assoc, hsplit, hparts]

namespace Filling

variable {filling : Filling}

theorem flatten_lines (filling : Filling) :
    filling.lines.flatten = filling.full.flatten ++ filling.line := by
  simp [lines]

theorem flatten_closed (filling : Filling) : filling.closed.flatten = filling.lines.flatten := by
  unfold closed
  split
  · rename_i hempty
    rw [flatten_lines, List.isEmpty_iff.1 hempty, List.append_nil]
  · rfl

theorem flatten_addChar (width : Nat) (filling : Filling) (c : Char) :
    (filling.addChar width c).lines.flatten = filling.lines.flatten ++ [c] := by
  unfold addChar
  split
  · rw [flatten_lines, flatten_lines, List.append_assoc]
  · rw [flatten_lines, flatten_closed]

theorem flatten_foldl_addChar (width : Nat) (filling : Filling) (cs : List Char) :
    (cs.foldl (addChar width) filling).lines.flatten = filling.lines.flatten ++ cs := by
  induction cs generalizing filling with
  | nil => rw [List.foldl_nil, List.append_nil]
  | cons c cs ih =>
    rw [List.foldl_cons, ih, flatten_addChar, List.append_assoc]
    rfl

/-- A word is added behind all that was there before. -/
theorem flatten_addWord (overflow : Overflow) (width : Nat) (filling : Filling)
    (word : List Char) :
    (filling.addWord overflow width word).lines.flatten = filling.lines.flatten ++ word := by
  unfold addWord
  split
  · rw [flatten_lines, flatten_lines, List.append_assoc]
  · split
    · rw [flatten_foldl_addChar, flatten_lines, flatten_closed, List.append_nil]
    · rw [flatten_lines, flatten_closed]

theorem flatten_foldl_addWord (overflow : Overflow) (width : Nat) (filling : Filling)
    (words : List (List Char)) :
    (words.foldl (addWord overflow width) filling).lines.flatten
      = filling.lines.flatten ++ words.flatten := by
  induction words generalizing filling with
  | nil => rw [List.foldl_nil, List.flatten_nil, List.append_nil]
  | cons word words ih =>
    rw [List.foldl_cons, ih, flatten_addWord, List.flatten_cons, List.append_assoc]

/-! ### Folded lines fit -/

/-- Every line fits, up to the blanks at its end. -/
def Fits (width : Nat) (filling : Filling) : Prop :=
  ∀ line ∈ filling.lines, cells (trimEnd isBlank line) ≤ width

theorem Fits.empty (width : Nat) : Fits width {} := by
  intro line hline
  rw [List.mem_singleton.1 hline]
  exact Nat.zero_le width

theorem Fits.of_line {full : List (List Char)}
    (hfull : ∀ line ∈ full, cells (trimEnd isBlank line) ≤ width)
    (hline : cells (trimEnd isBlank line) ≤ width) : Fits width { full, line } := by
  intro other hother
  rcases List.mem_append.1 hother with hmem | hlast
  · exact hfull other hmem
  · rw [List.mem_singleton.1 hlast]
    exact hline

theorem Fits.full (h : filling.Fits width) :
    ∀ line ∈ filling.full, cells (trimEnd isBlank line) ≤ width :=
  fun line hline => h line (List.mem_append_left _ hline)

theorem Fits.closed (h : filling.Fits width) :
    ∀ line ∈ filling.closed, cells (trimEnd isBlank line) ≤ width := by
  unfold Filling.closed
  split
  · exact h.full
  · exact h

theorem Fits.addChar (hwidth : 2 ≤ width) (h : filling.Fits width) (c : Char) :
    (filling.addChar width c).Fits width := by
  unfold Filling.addChar
  split
  · rename_i hroom
    exact .of_line h.full (Nat.le_trans (cells_trimEnd_le isBlank _) hroom)
  · have hsingle : cells [c] ≤ width := Nat.le_trans (cellWidth_le_two c) hwidth
    exact .of_line h.closed (Nat.le_trans (cells_trimEnd_le isBlank [c]) hsingle)

theorem Fits.foldl_addChar (hwidth : 2 ≤ width) (h : filling.Fits width) (cs : List Char) :
    (cs.foldl (Filling.addChar width) filling).Fits width := by
  induction cs generalizing filling with
  | nil => exact h
  | cons c cs ih => exact ih (h.addChar hwidth c)

/-- A word goes on a line where it has room, or it is folded into lines that fit. -/
theorem Fits.addWord (hwidth : 2 ≤ width) (h : filling.Fits width) (word : List Char) :
    (filling.addWord .fold width word).Fits width := by
  unfold Filling.addWord
  split
  · rename_i hroom
    have htrimmed := cells_le_of_isPrefix (trimEnd_append_isPrefix isBlank filling.line word)
    exact .of_line h.full (Nat.le_trans htrimmed hroom)
  · split
    · have hstart : Fits width { full := filling.closed } := .of_line h.closed (Nat.zero_le width)
      exact hstart.foldl_addChar hwidth word
    · rename_i hfolded
      have hroom : ¬ width < cells (trimEnd isBlank word) := fun hwide => hfolded ⟨rfl, hwide⟩
      exact .of_line h.closed (Nat.le_of_not_lt hroom)

theorem Fits.foldl_addWord (hwidth : 2 ≤ width) (h : filling.Fits width)
    (words : List (List Char)) : (words.foldl (Filling.addWord .fold width) filling).Fits width := by
  induction words generalizing filling with
  | nil => exact h
  | cons word words ih => exact ih (h.addWord hwidth word)

end Filling

/-- **Breaking a line keeps all its characters.** -/
theorem flatten_breakLine (overflow : Overflow) (width : Nat) (cs : List Char) :
    (breakLine overflow width cs).flatten = cs := by
  rw [breakLine, Filling.flatten_foldl_addWord, flatten_words]
  rfl

/-! ### Texts that fit -/

theorem expandTabs_of_notMem {position : Nat} {cs : List Char} (h : '\t' ∉ cs) :
    expandTabs position cs = cs := by
  fun_induction expandTabs position cs with
  | case1 => rfl
  | case2 position rest stop ih => exact absurd List.mem_cons_self h
  | case3 position c rest _ ih => rw [ih fun hrest => h (List.mem_cons_of_mem c hrest)]

/-- Words that all have room on the line are added to it. Induction on the words. -/
theorem Filling.foldl_addWord_of_fits {filling : Filling} {words : List (List Char)}
    (h : cells (filling.line ++ words.flatten) ≤ width) :
    words.foldl (addWord overflow width) filling
      = { filling with line := filling.line ++ words.flatten } := by
  induction words generalizing filling with
  | nil => simp
  | cons word words ih =>
    have hword : cells (filling.line ++ trimEnd isBlank word) ≤ width := by
      have htrimmed := cells_trimEnd_le isBlank word
      simp only [List.flatten_cons, cells_append] at h ⊢
      omega
    rw [List.flatten_cons, ← List.append_assoc] at h
    rw [List.foldl_cons, addWord, if_pos hword, ih h, List.flatten_cons, List.append_assoc]

theorem breakLine_of_fits {cs : List Char} (h : cells cs ≤ width) :
    breakLine overflow width cs = [cs] := by
  rw [breakLine, Filling.foldl_addWord_of_fits (by rwa [flatten_words]), flatten_words]
  rfl

/-- **A text that fits is shown as it is**, on one line. It has to fit in cells, and in characters
too: the blanks at the end of a line that has more of them than the width are dropped. -/
theorem lay_of_fits {text : String} (hcells : cells text.toList ≤ width)
    (hlength : text.toList.length ≤ width)
    (hplain : ∀ c ∈ text.toList, isShown c = true ∧ c ≠ '\n' ∧ c ≠ '\t') :
    lay overflow width text = [text.toList] := by
  have hshown : text.toList.filter isShown = text.toList :=
    List.filter_eq_self.2 fun c hc => (hplain c hc).1
  have hnewline : '\n' ∉ text.toList := fun hmem => (hplain _ hmem).2.1 rfl
  have htab : '\t' ∉ text.toList := fun hmem => (hplain _ hmem).2.2 rfl
  have hdrop : dropExcess width text.toList = text.toList :=
    List.take_of_length_le (Nat.le_trans hlength (Nat.le_max_left _ _))
  have hclip : clip overflow width text.toList = text.toList := if_pos hcells
  simp only [lay, hshown, List.splitOn_eq_singleton hnewline, List.flatMap_singleton,
    expandTabs_of_notMem htab, breakLine_of_fits hcells, List.map_singleton, Function.comp_apply,
    hdrop, hclip]

/-! ### What the reader sees -/

/-- Whether a character can be seen. -/
def isVisible (c : Char) : Bool :=
  isShown c && !isBlank c

/-- The characters of a text that can be seen. -/
def visible (cs : List Char) : List Char :=
  cs.filter isVisible

theorem visible_append (cs rest : List Char) : visible (cs ++ rest) = visible cs ++ visible rest :=
  List.filter_append ..

theorem visible_flatten (lines : List (List Char)) :
    visible lines.flatten = (lines.map visible).flatten :=
  List.filter_flatten

theorem visible_of_isBlank {cs : List Char} (h : ∀ c ∈ cs, isBlank c = true) : visible cs = [] := by
  refine List.filter_eq_nil_iff.2 fun c hc => ?_
  simp [isVisible, h c hc]

theorem visible_append_of_isBlank {rest : List Char} (h : ∀ c ∈ rest, isBlank c = true)
    (cs : List Char) : visible (cs ++ rest) = visible cs := by
  rw [visible_append, visible_of_isBlank h, List.append_nil]

theorem visible_replicate_blank (n : Nat) : visible (List.replicate n ' ') = [] :=
  visible_of_isBlank fun c hc => by
    rw [List.eq_of_mem_replicate hc]
    decide

theorem visible_pad (width : Nat) (line : List Char) : visible (pad width line) = visible line := by
  rw [pad, visible_append, visible_replicate_blank, List.append_nil]

theorem visible_expandTabs (position : Nat) (cs : List Char) :
    visible (expandTabs position cs) = visible cs := by
  fun_induction expandTabs position cs with
  | case1 => rfl
  | case2 position rest stop ih =>
    rw [visible_append, visible_replicate_blank, ih]
    rfl
  | case3 position c rest _ ih =>
    show visible ([c] ++ expandTabs _ rest) = visible ([c] ++ rest)
    rw [visible_append, visible_append, ih]

theorem takeCells_isPrefix (width : Nat) (line : List Char) : takeCells width line <+: line := by
  induction line generalizing width with
  | nil => exact List.prefix_refl []
  | cons c rest ih =>
    unfold takeCells
    split
    · exact List.cons_prefix_cons.2 ⟨rfl, ih (width - cellWidth c)⟩
    · exact List.nil_prefix

/-- Where the front of a line fits and only blanks come after it, all of the front is taken. -/
theorem exists_takeCells_append {front blanks : List Char} (hfront : cells front ≤ width)
    (hblanks : ∀ c ∈ blanks, isBlank c = true) :
    ∃ taken, takeCells width (front ++ blanks) = front ++ taken ∧
      ∀ c ∈ taken, isBlank c = true := by
  induction front generalizing width with
  | nil =>
    exact ⟨takeCells width blanks, rfl, fun c hc =>
      hblanks c ((takeCells_isPrefix width blanks).mem hc)⟩
  | cons c front ih =>
    rw [cells_cons] at hfront
    have hrest : cells front ≤ width - cellWidth c := by omega
    obtain ⟨taken, htaken, hblank⟩ := ih hrest
    refine ⟨taken, ?_, hblank⟩
    rw [List.cons_append, takeCells, if_pos (by omega), htaken]
    rfl

/-- What is left of a line is the line without its blanks, and some of them. -/
theorem exists_dropExcess_eq (width : Nat) (line : List Char) :
    ∃ blanks : List Char, (∀ c ∈ blanks, isBlank c = true) ∧
      dropExcess width line = trimEnd isBlank line ++ blanks := by
  obtain ⟨run, hrun, hline⟩ := exists_trimEnd_append isBlank line
  let left := max width (trimEnd isBlank line).length - (trimEnd isBlank line).length
  have hleft : max width (trimEnd isBlank line).length
      = (trimEnd isBlank line).length + left := by omega
  refine ⟨run.take left, fun c hc => hrun c (List.mem_of_mem_take hc), ?_⟩
  rw [dropExcess, hleft, ← List.take_length_add_append, hline]

theorem visible_trimEnd (line : List Char) : visible (trimEnd isBlank line) = visible line := by
  obtain ⟨run, hrun, hline⟩ := exists_trimEnd_append isBlank line
  have happend := visible_append_of_isBlank hrun (trimEnd isBlank line)
  rw [hline] at happend
  exact happend.symm

/-- A line that fits up to its blanks loses only blanks when it is cut off. -/
theorem visible_clip_dropExcess (h : cells (trimEnd isBlank line) ≤ width) :
    visible (clip .fold width (dropExcess width line)) = visible line := by
  obtain ⟨blanks, hblanks, hdrop⟩ := exists_dropExcess_eq width line
  rw [hdrop, clip, ← visible_trimEnd line]
  split
  · exact visible_append_of_isBlank hblanks _
  · obtain ⟨taken, htaken, htakenBlank⟩ := exists_takeCells_append h hblanks
    show visible (pad width (takeCells width (trimEnd isBlank line ++ blanks))) = _
    rw [visible_pad, htaken, visible_append_of_isBlank htakenBlank]

theorem visible_intercalate_newline (lines : List (List Char)) :
    visible (['\n'].intercalate lines) = visible lines.flatten := by
  have hnewline : visible ['\n'] = [] := rfl
  induction lines with
  | nil => rfl
  | cons line lines ih =>
    cases lines with
    | nil => simp
    | cons next lines =>
      rw [List.intercalate_cons_cons, visible_append, visible_append, hnewline, List.append_nil, ih,
        List.flatten_cons (l := line), visible_append]

theorem visible_flatten_flatMap {shownAs : List Char → List (List Char)}
    (h : ∀ line, visible (shownAs line).flatten = visible line) (lines : List (List Char)) :
    visible (lines.flatMap shownAs).flatten = visible lines.flatten := by
  induction lines with
  | nil => rfl
  | cons line lines ih =>
    rw [List.flatMap_cons, List.flatten_append, visible_append, h, ih, List.flatten_cons,
      visible_append]

theorem visible_filter_isShown (cs : List Char) : visible (cs.filter isShown) = visible cs := by
  rw [visible, List.filter_filter, visible]
  congr 1
  funext c
  cases h : isShown c <;> simp [isVisible, h]

/-- What can be seen of a line can be seen after it is folded. -/
theorem visible_foldLine (hwidth : 2 ≤ width) (cs : List Char) :
    visible ((breakLine .fold width cs).map (clip .fold width ∘ dropExcess width)).flatten
      = visible cs := by
  have hfits : Filling.Fits width ((words cs).foldl (Filling.addWord .fold width) {}) :=
    (Filling.Fits.empty width).foldl_addWord hwidth (words cs)
  have hlines : (breakLine .fold width cs).map (visible ∘ clip .fold width ∘ dropExcess width)
      = (breakLine .fold width cs).map visible :=
    List.map_congr_left fun line hline => visible_clip_dropExcess (hfits line hline)
  rw [visible_flatten, List.map_map, hlines, ← visible_flatten, flatten_breakLine]

/-- **Folding loses nothing but blanks.** What can be seen of a text can be seen, in the same order,
in the lines that it is laid out in, if a line has room for any one character. -/
theorem visible_lay (hwidth : 2 ≤ width) (text : String) :
    visible (lay .fold width text).flatten = visible text.toList := by
  have hsource : visible ((text.toList.filter isShown).splitOn '\n').flatten
      = visible text.toList := by
    rw [← visible_intercalate_newline, List.intercalate_splitOn, visible_filter_isShown]
  rw [lay, visible_flatten_flatMap, hsource]
  intro line
  rw [visible_foldLine hwidth, visible_expandTabs]

example : (lay .fold 4 "ab cdefg\n日本語").map String.ofList = ["ab ", "cdef", "g", "日本", "語"] := by
  decide +kernel

end Layout

/-! ### Tables -/

namespace Table

open Layout

variable {opening junction closing : Char} {widths : List Nat} {line : List Char}

/-- The width of a table: its columns, one blank on either side of each, and the box. -/
def totalWidth : List Nat → Nat
  | [] => 1
  | width :: widths => width + 3 + totalWidth widths

/-- A line across the table is as wide as the table, if each piece is as wide as its column with the
blanks. -/
theorem cells_across (hopening : cellWidth opening = 1) (hjunction : cellWidth junction = 1)
    (hclosing : cellWidth closing = 1) {pieces : List (List Char)} (hne : widths ≠ [])
    (hpieces : pieces.map cells = widths.map (· + 2)) :
    cells (across opening junction closing pieces) = totalWidth widths := by
  have hjoined : cells ([junction].intercalate pieces) + 2 = totalWidth widths := by
    induction widths generalizing pieces with
    | nil => exact absurd rfl hne
    | cons width widths ih =>
      cases pieces with
      | nil => cases hpieces
      | cons piece pieces =>
        simp only [List.map_cons, List.cons.injEq] at hpieces
        obtain ⟨hpiece, hrest⟩ := hpieces
        cases widths with
        | nil =>
          rw [List.map_nil, List.map_eq_nil_iff] at hrest
          rw [hrest, List.intercalate_singleton, hpiece, totalWidth, totalWidth]
        | cons other widths =>
          have hnext := ih (List.cons_ne_nil other widths) hrest
          cases pieces with
          | nil => cases hrest
          | cons next pieces =>
            rw [List.intercalate_cons_cons, cells_append, cells_append, cells_cons, cells_nil,
              hpiece, hjunction, totalWidth]
            omega
  rw [across, cells_append, cells_cons, cells_cons, cells_nil, hopening, hclosing, ← hjoined]
  omega

theorem cells_rule (hopening : cellWidth opening = 1) (hjunction : cellWidth junction = 1)
    (hclosing : cellWidth closing = 1) (hne : widths ≠ []) :
    cells (rule opening junction closing widths) = totalWidth widths := by
  have hdash : cellWidth '─' = 1 := by decide +kernel
  have hpieces : (widths.map fun width => List.replicate (width + 2) '─').map cells
      = widths.map (· + 2) := by
    simp only [List.map_map, Function.comp_def, cells_replicate, hdash, Nat.mul_one]
  exact cells_across hopening hjunction hclosing hne hpieces

theorem cells_cellLine {width : Nat} (h : cells line ≤ width) :
    cells (cellLine width line) = width + 2 := by
  have hblank : cellWidth ' ' = 1 := by decide
  rw [cellLine, cells_append, cells_cons, cells_cons, cells_nil, hblank, cells_pad h]
  omega

/-- The pieces of one line of a row are as wide as their columns. Induction on the columns. -/
theorem map_cells_pieces (i : Nat) {texts : List String} (hwidths : ∀ width ∈ widths, 1 ≤ width)
    (hlength : texts.length = widths.length) :
    ((List.zipWith (fun width text => (width, lay .ellipsis width text)) widths texts).map
        fun (width, lines) => cellLine width (lines.getD i [])).map cells
      = widths.map (· + 2) := by
  induction widths generalizing texts with
  | nil => simp
  | cons width widths ih =>
    cases texts with
    | nil => cases hlength
    | cons text texts =>
      rw [List.forall_mem_cons] at hwidths
      have hline : cells ((lay .ellipsis width text).getD i []) ≤ width := by
        rw [List.getD_eq_getElem?_getD]
        cases hget : (lay .ellipsis width text)[i]? with
        | none => exact Nat.zero_le width
        | some line => exact cells_le_of_mem_lay hwidths.1 (List.mem_of_getElem? hget)
      have hrest := ih hwidths.2 (Nat.succ.inj hlength)
      rw [List.zipWith_cons_cons, List.map_cons, List.map_cons, List.map_cons, hrest]
      rw [cells_cellLine hline]

/-- Every line of a row is as wide as the table, if there is a cell for each column. -/
theorem cells_of_mem_row {texts : List String} (hne : widths ≠ [])
    (hwidths : ∀ width ∈ widths, 1 ≤ width) (hlength : texts.length = widths.length)
    (h : line ∈ row widths texts) : cells line = totalWidth widths := by
  have hframe : cellWidth '│' = 1 := by decide +kernel
  obtain ⟨i, -, rfl⟩ := List.mem_map.1 h
  exact cells_across hframe hframe hframe hne (map_cells_pieces i hwidths hlength)

/-- **The lines of a table are all of one width**, whatever its cells hold. -/
theorem cells_of_mem_lines {columns : List Column} {rows : List (List String)}
    (hne : columns ≠ []) (hcolumns : ∀ column ∈ columns, 1 ≤ column.width)
    (hrows : ∀ texts ∈ rows, texts.length = columns.length) (h : line ∈ lines columns rows) :
    cells line = totalWidth (columns.map Column.width) := by
  have hwidths : columns.map Column.width ≠ [] := by simpa using hne
  have hpos : ∀ width ∈ columns.map Column.width, 1 ≤ width := by simpa using hcolumns
  simp only [lines, List.mem_append, List.mem_cons, List.not_mem_nil, or_false] at h
  rcases h with ((rfl | hhead) | rfl | hrow) | rfl
  · exact cells_rule (by decide +kernel) (by decide +kernel) (by decide +kernel) hwidths
  · exact cells_of_mem_row hwidths hpos (by simp) hhead
  · exact cells_rule (by decide +kernel) (by decide +kernel) (by decide +kernel) hwidths
  · obtain ⟨texts, htexts, hline⟩ := List.mem_flatMap.1 hrow
    exact cells_of_mem_row hwidths hpos (by simpa using hrows texts htexts) hline
  · exact cells_rule (by decide +kernel) (by decide +kernel) (by decide +kernel) hwidths

end Table

/-! ### Reports -/

theorem one_le_valueWidth (filters : List Filter) : 1 ≤ valueWidth filters := by
  have hhead : 1 ≤ max 0 (cells "Value".toList) := by decide
  have hlimit : 1 ≤ maxValueWidth := by decide
  rw [valueWidth, List.map_cons, List.foldl_cons, List.foldl_max]
  omega

/-- A table of filters is 38 cells wide, and as wide again as its values. -/
theorem cells_of_mem_filterTable {filters : List Filter} {line : List Char}
    (h : line ∈ filterTable filters) : cells line = 38 + valueWidth filters := by
  have hvalue := one_le_valueWidth filters
  have hcolumns : ∀ column ∈ ([⟨"#", 3⟩, ⟨"Field", 18⟩, ⟨"Op", 4⟩,
      ⟨"Value", valueWidth filters⟩] : List Column), 1 ≤ column.width := by
    simpa using hvalue
  have hrows : ∀ texts ∈ filters.mapIdx fun i filter => filterRow filter (i + 1),
      texts.length = 4 := by
    intro texts htexts
    obtain ⟨i, hi, rfl⟩ := List.mem_mapIdx.1 htexts
    rfl
  rw [Table.cells_of_mem_lines (List.cons_ne_nil _ _) hcolumns hrows h]
  simp only [Table.totalWidth, List.map_cons, List.map_nil]
  omega

/-- **No line of a report is wider than the terminal.** -/
theorem cells_le_of_mem_reportLines {parsed : Query.Parsed} {line : List Char}
    (h : line ∈ reportLines parsed) : cells line ≤ Layout.consoleWidth := by
  have hconsole {text : String} (hline : line ∈ Layout.console text) :
      cells line ≤ Layout.consoleWidth := Layout.cells_le_of_mem_lay (by decide) hline
  rw [reportLines, List.mem_append, List.mem_append] at h
  rcases h with (hfilters | hkeywords) | hfilter
  · split at hfilters
    · exact hconsole hfilters
    · have hlimit : valueWidth parsed.filters ≤ 60 := Nat.min_le_right _ _
      have hwidth : Layout.consoleWidth = 200 := rfl
      rw [cells_of_mem_filterTable hfilters, hwidth]
      omega
  · exact hconsole hkeywords
  · split at hfilter
    · cases hfilter
    · exact hconsole hfilter

end CommandLine

end MailSearch
