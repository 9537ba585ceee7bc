import PluginReadme.Block.Definitions
import PluginReadme.Proofs.Text.Cut
import PluginReadme.Proofs.Text.LineEnds
import PluginReadme.Readme.Fence

/-!
# Documents without definitions

A fence that nothing closes before the last line makes the whole document one block of code, and a
single line that begins with a backtick and opens no fence is a paragraph. Neither holds a link
definition (`collect_fenced`, `collect_codeSpan`).
-/

namespace PluginReadme.Block

variable {frame : Frame} {fence : Fence} {line last : Line} {ls : List Line}

/-! ## One block -/

/-- Lines that neither stand left of the container nor close the fence belong to its block; so does
the line after them. -/
theorem fencedTail_append_singleton (hmargin : frame.margin = 0)
    (hindent : ∀ line ∈ ls ++ [last], 0 ≤ line.indent)
    (hopen : ∀ line ∈ ls, fence.closedBy line.body = false) :
    fencedTail frame fence (ls ++ [last]) = ls.length + 1 := by
  induction ls with
  | nil =>
    have hlast : ¬ last.indent < 0 := by have := hindent last (by simp); omega
    simp [fencedTail, hmargin, hlast]
  | cons line ls ih =>
    have hline : ¬ line.indent < 0 := by have := hindent line (by simp); omega
    rw [List.cons_append, fencedTail, hmargin, hopen line List.mem_cons_self,
      ih (fun other hother ↦ hindent other (List.mem_cons_of_mem line hother))
        fun other hother ↦ hopen other (List.mem_cons_of_mem line hother)]
    simp [hline]

theorem blocks_of_limit_zero (fuel number : Nat) : blocks fuel frame 0 number ls = .ok (0, []) := by
  cases fuel with
  | zero => rw [blocks]
  | succ fuel => rw [blocks]; rfl

/-- A block that takes all lines of a document and holds no definition. -/
theorem blocks_of_block (hblank : line.isBlank = false) (hindent : 0 ≤ line.indent)
    {number fuel : Nat}
    (hblock : block fuel .outermost (ls.length + 1) number line ls = .ok (ls.length + 1, [])) :
    blocks (fuel + 1) .outermost (ls.length + 1) number (line :: ls) = .ok (ls.length + 1, []) := by
  have hblanks : (line :: ls).takeWhile Line.isBlank = [] :=
    List.takeWhile_cons_of_neg (by simp [hblank])
  have hmargin : ¬ line.indent < (Frame.outermost.margin : Int) := by
    simpa [Frame.outermost] using hindent
  rw [blocks]
  simp only [hblanks, List.length_nil, List.drop_zero, Nat.sub_zero, Nat.add_zero, hblock]
  rw [if_neg (Nat.succ_ne_zero _), if_neg (by omega), if_neg hmargin, if_neg (by decide)]
  simp [bind, Except.bind, pure, Except.pure, blocks_of_limit_zero]

/-- A paragraph of one line; it begins with a backtick, which opens no block if it is not the first
of three. -/
theorem block_of_backtick {rest : Text} (hbody : line.body = '\x60' :: rest)
    (hindent : line.indent = 0) (hrest : rest.head? ≠ some '\x60') (fuel number : Nat) :
    block (fuel + 1) .outermost 1 number line [] = .ok (1, []) := by
  have hcode : Frame.outermost.isCode line = false := by
    simp [Frame.isCode, Frame.outermost, hindent]
  have hfence : fence? line.body = none := by
    have hrun : rest.takeWhile (· == '\x60') = [] := by
      cases rest with
      | nil => rfl
      | cons c rest => exact List.takeWhile_cons_of_neg (by simpa using hrest)
    rw [hbody, fence?]
    simp [hrun]
  have hlist : Frame.outermost.list? line = none := by
    have hmark : listMark? line.body = none := by
      rw [hbody]
      rfl
    rw [Frame.list?, hmark, ite_self]
  have hdefinition : definition? .outermost number line [] = none := by
    have hsource : Text.after? "[" line.source = none := by
      rw [Line.source, hbody]
      split <;> rfl
    rw [definition?, LinkDefinition.read?, hsource]
    rfl
  have hhtml : htmlKind? line.body = none := by
    rw [hbody]
    rfl
  unfold block
  simp only [hcode, hfence, hlist, hdefinition, hhtml]
  simp [hbody, isQuoted, isRule, isNumberHeading, underlined?]

/-- A fence, the lines up to a closing fence and that fence are one block without definitions. -/
theorem block_of_fence (hindent : line.indent = 0) (hfence : fence? line.body = some fence)
    (hls : ∀ other ∈ ls ++ [last], 0 ≤ other.indent)
    (hopen : ∀ other ∈ ls, fence.closedBy other.body = false) (fuel number : Nat) :
    block (fuel + 1) .outermost ((ls ++ [last]).length + 1) number line (ls ++ [last]) =
      .ok ((ls ++ [last]).length + 1, []) := by
  have hcode : Frame.outermost.isCode line = false := by
    simp [Frame.isCode, Frame.outermost, hindent]
  have hwindow : (ls ++ [last]).take ((ls ++ [last]).length + 1 - 1) = ls ++ [last] := by simp
  have htail : fencedTail .outermost fence (ls ++ [last]) = ls.length + 1 :=
    fencedTail_append_singleton rfl hls hopen
  unfold block
  simp only [hcode, hfence, hwindow, htail]
  simp

/-! ## Lines -/

theorem passSpace_suffix (edge column : Nat) (t : Text) : (passSpace edge column t).2 <:+ t := by
  fun_induction passSpace edge column t with
  | case1 column rest ih => exact ih.trans (List.suffix_cons ' ' rest)
  | case2 column rest ih => exact ih.trans (List.suffix_cons '\t' rest)
  | case3 => exact List.suffix_refl _

theorem body_ofText_suffix (t : Text) (ended : Bool) : (Line.ofText t ended).body <:+ t :=
  passSpace_suffix 0 0 t

theorem indent_ofText_nonneg (t : Text) (ended : Bool) : 0 ≤ (Line.ofText t ended).indent :=
  Int.natCast_nonneg _

theorem linesOf_of_splitOn {t last : Text} {pieces : List Text}
    (h : Text.splitOn '\n' t = pieces ++ [last]) (hlast : last.all isSpaceOrTab = false) :
    linesOf t = pieces.map (Line.ofText · true) ++ [Line.ofText last false] := by
  rw [linesOf, h]
  simp [hlast]

/-! ## The text as blocks see it -/

def visible (c : Char) : Char := if c.toNat == 0 then Char.ofNat 0xFFFD else c

theorem visible_ne {c d : Char} (h : c ≠ d) (hd : d ≠ Char.ofNat 0xFFFD) : visible c ≠ d := by
  unfold visible
  split
  · exact hd.symm
  · exact h

theorem not_mem_map_visible {c : Char} {t : Text} (h : c ∉ t) (hc : c ≠ Char.ofNat 0xFFFD) :
    c ∉ t.map visible := by
  intro hmem
  obtain ⟨d, hd, heq⟩ := List.mem_map.mp hmem
  exact visible_ne (ne_of_mem_of_not_mem hd h) hc heq

theorem unifyLineEnds_of_not_mem {t : Text} (h : '\r' ∉ t) : Text.unifyLineEnds t = t := by
  induction t with
  | nil => rfl
  | cons c t ih =>
    rw [Text.unifyLineEnds_cons fun hc ↦ h (hc ▸ List.mem_cons_self),
      ih fun hmem ↦ h (List.mem_cons_of_mem c hmem)]

theorem unifyLineEnds_append {front tail : Text} (h : tail.head? ≠ some '\n') :
    Text.unifyLineEnds (front ++ tail) = Text.unifyLineEnds front ++ Text.unifyLineEnds tail := by
  fun_induction Text.unifyLineEnds front with
  | case1 => rfl
  | case2 rest ih =>
    rw [List.cons_append, List.cons_append, Text.unifyLineEnds, ih, List.cons_append]
  | case3 rest hrest ih =>
    rw [List.cons_append, Text.unifyLineEnds, ih, List.cons_append]
    rintro more hmore
    cases rest with
    | nil => exact h (by rw [← List.nil_append tail, hmore]; rfl)
    | cons c rest =>
      obtain ⟨rfl, -⟩ := List.cons.inj hmore
      exact hrest rest rfl
  | case4 c rest hpair hreturn ih =>
    rw [List.cons_append, Text.unifyLineEnds_cons hreturn, ih, List.cons_append]

theorem mem_of_mem_unifyLineEnds {c : Char} {t : Text} (h : c ∈ Text.unifyLineEnds t) :
    c ∈ t ∨ c = '\n' := by
  fun_induction Text.unifyLineEnds t with
  | case1 => exact absurd h List.not_mem_nil
  | case2 rest ih => grind
  | case3 rest hrest ih => grind
  | case4 d rest hpair hreturn ih => grind

/-! ## Definitions -/

/-- Where one block takes all lines of a text, the definitions of the text are those of the block.
-/
theorem collect_of_block {t : Text} (hlines : linesOf (normalize t) = line :: ls)
    (hblank : line.isBlank = false) (hindent : line.indent = 0)
    (hblock : ∀ fuel number, block (fuel + 1) .outermost (ls.length + 1) number line ls =
      .ok (ls.length + 1, [])) : LinkDefinition.collect t = .ok [] := by
  obtain ⟨fuel, hfuel⟩ : ∃ fuel, enoughFuel (line :: ls) = fuel + 2 :=
    ⟨enoughFuel (line :: ls) - 2, by simp [enoughFuel]; omega⟩
  rw [LinkDefinition.collect]
  simp only [hlines, hfuel, List.length_cons]
  rw [blocks_of_block hblank (by omega) (hblock fuel 0)]
  rfl

end PluginReadme.Block

namespace PluginReadme.LinkDefinition

variable {code : Text}

/-- Before the mark that closes a fence stands what the lines of its code become. -/
theorem normalize_fenced (code : Text) :
    Block.normalize (Fence.mark ++ '\n' :: (code ++ '\n' :: Fence.mark)) = Fence.mark ++
      '\n' :: ((Text.unifyLineEnds (code ++ ['\n'])).map Block.visible ++ Fence.mark) := by
  have hunify : Text.unifyLineEnds (code ++ '\n' :: Fence.mark) =
      Text.unifyLineEnds (code ++ ['\n']) ++ Fence.mark := by
    rw [← List.singleton_append, ← List.append_assoc, Block.unifyLineEnds_append (by decide)]
    rfl
  rw [show Block.normalize (Fence.mark ++ '\n' :: (code ++ '\n' :: Fence.mark)) = Fence.mark ++
    '\n' :: (Text.unifyLineEnds (code ++ '\n' :: Fence.mark)).map Block.visible from rfl, hunify,
    List.map_append]
  rfl

/-- Nothing in a fence is a definition. -/
theorem collect_fenced (h : '\x60' ∉ code) :
    collect (Fence.mark ++ '\n' :: (code ++ '\n' :: Fence.mark)) = .ok [] := by
  have hfeed : '\n' ∉ Fence.mark := by decide
  have hbody : '\x60' ∉ (Text.unifyLineEnds (code ++ ['\n'])).map Block.visible := by
    refine Block.not_mem_map_visible (fun hmem ↦ ?_) (by decide)
    rcases Block.mem_of_mem_unifyLineEnds hmem with hmem | hmem
    · exact h (by simpa using hmem)
    · exact absurd hmem (by decide)
  obtain ⟨pieces, last, hsplit, hpieces⟩ :=
    Text.exists_splitOn_append hfeed ((Text.unifyLineEnds (code ++ ['\n'])).map Block.visible)
  have hall : Text.splitOn '\n' (Block.normalize
      (Fence.mark ++ '\n' :: (code ++ '\n' :: Fence.mark))) =
      (Fence.mark :: pieces) ++ [last ++ Fence.mark] := by
    rw [normalize_fenced, Text.splitOn_append_mark, Text.splitOn_of_not_mem hfeed, hsplit]
    rfl
  have hlast : (last ++ Fence.mark).all Block.isSpaceOrTab = false := by
    rw [List.all_append, show Fence.mark.all Block.isSpaceOrTab = false by decide, Bool.and_false]
  have hfence : Block.fence? Fence.mark = some ⟨'\x60', 3⟩ := by decide
  refine Block.collect_of_block (Block.linesOf_of_splitOn hall hlast) rfl rfl
    (Block.block_of_fence rfl hfence ?_ ?_)
  · intro line hline
    rcases List.mem_append.mp hline with hline | hline
    · obtain ⟨piece, -, rfl⟩ := List.mem_map.mp hline
      exact Block.indent_ofText_nonneg piece true
    · rw [List.mem_singleton.mp hline]
      exact Block.indent_ofText_nonneg _ false
  · intro line hline
    obtain ⟨piece, hpiece, rfl⟩ := List.mem_map.mp hline
    have hnot : '\x60' ∉ (Block.Line.ofText piece true).body := fun hmem ↦
      hbody (hpieces piece hpiece _ ((Block.body_ofText_suffix piece true).subset hmem))
    have hrun : (Block.Line.ofText piece true).body.takeWhile (· == '\x60') = [] := by
      rw [List.takeWhile_eq_nil_iff]
      intro hpos
      simpa using ne_of_mem_of_not_mem (List.getElem_mem hpos) hnot
    rw [Block.Fence.closedBy]
    simp [hrun]

/-- A code span alone on its line is no definition. -/
theorem collect_codeSpan (hne : code ≠ []) (h : '\x60' ∉ code) (hfeed : '\n' ∉ code)
    (hreturn : '\r' ∉ code) : collect ('\x60' :: code ++ ['\x60']) = .ok [] := by
  have hnormal : Block.normalize ('\x60' :: code ++ ['\x60']) =
      '\x60' :: (code.map Block.visible ++ ['\x60']) := by
    rw [show Block.normalize ('\x60' :: code ++ ['\x60']) =
      (Text.unifyLineEnds ('\x60' :: code ++ ['\x60'])).map Block.visible from rfl,
      Block.unifyLineEnds_of_not_mem (by simpa using hreturn)]
    simp [Block.visible]
  have hsplit : Text.splitOn '\n' (Block.normalize ('\x60' :: code ++ ['\x60'])) =
      [] ++ ['\x60' :: (code.map Block.visible ++ ['\x60'])] := by
    have hnot := Block.not_mem_map_visible hfeed (by decide)
    rw [hnormal, Text.splitOn_of_not_mem (by simpa using hnot)]
    rfl
  have hhead : (code.map Block.visible ++ ['\x60']).head? ≠ some '\x60' := by
    obtain ⟨c, rest, rfl⟩ := List.exists_cons_of_ne_nil hne
    have hc : c ≠ '\x60' := fun heq ↦ h (heq ▸ List.mem_cons_self)
    simpa using Block.visible_ne hc (by decide)
  exact Block.collect_of_block (Block.linesOf_of_splitOn hsplit (by simp [Block.isSpaceOrTab]))
    rfl rfl (Block.block_of_backtick rfl rfl hhead)

end PluginReadme.LinkDefinition
