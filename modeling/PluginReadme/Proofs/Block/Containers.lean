import PluginReadme.Proofs.Block.Definition
import PluginReadme.Proofs.Block.Fenced
import PluginReadme.Proofs.Text.Numbering

/-!
# Numbers of lines in containers

Containers take marks off the front of lines, and hand lines on without a change of order. So a line
inside containers is the end of the line of the document that has its number (`Trails`), and this is
kept from one container to the next (`sound`). A definition stands on the lines that its numbers say
(`standsOn_of_mem`).
-/

namespace PluginReadme.Block

variable {source whole texts : List Text} {lines rest window : List Line} {line : Line}
  {frame : Frame} {mark : ListMark} {number : Nat}

/-! ## Ends of lines -/

/-- Each text is the end of the line at its place. -/
def Trails (whole texts : List Text) : Prop :=
  ∀ (i : Nat) (text : Text), texts[i]? = some text → ∃ line, whole[i]? = some line ∧ text <:+ line

namespace Trails

theorem of_prefix (h : texts <+: whole) : Trails whole texts := by
  obtain ⟨more, rfl⟩ := h
  intro i text htext
  have hlt := (List.getElem?_eq_some_iff.mp htext).1
  exact ⟨text, by rw [List.getElem?_append_left hlt, htext], List.suffix_refl text⟩

theorem trans {inner : List Text} (h : Trails whole texts) (h' : Trails texts inner) :
    Trails whole inner := by
  intro i text htext
  obtain ⟨middle, hmiddle, hsuffix⟩ := h' i text htext
  obtain ⟨line, hline, hsuffix'⟩ := h i middle hmiddle
  exact ⟨line, hline, hsuffix.trans hsuffix'⟩

theorem cons {text line : Text} (hsuffix : text <:+ line) (h : Trails whole texts) :
    Trails (line :: whole) (text :: texts) := by
  intro i other hother
  cases i with
  | zero =>
    obtain rfl := Option.some.inj hother
    exact ⟨line, rfl, hsuffix⟩
  | succ i => exact h i other hother

theorem drop (h : Trails whole texts) (n : Nat) : Trails (whole.drop n) (texts.drop n) := by
  intro i text htext
  rw [List.getElem?_drop] at htext ⊢
  exact h (n + i) text htext

/-- Behind some lines the whole goes on. -/
theorem append_drop (h : Trails whole texts) : Trails whole (texts ++ whole.drop texts.length) := by
  intro i text htext
  by_cases hi : i < texts.length
  · rw [List.getElem?_append_left hi] at htext
    exact h i text htext
  · have hle := Nat.le_of_not_lt hi
    rw [List.getElem?_append_right hle, List.getElem?_drop, Nat.add_sub_cancel' hle] at htext
    exact ⟨text, htext, List.suffix_refl text⟩

end Trails

/-! ## Marks -/

theorem source_suffix {inner : Line} (hbody : inner.body <:+ line.body)
    (hended : inner.ended = line.ended) : inner.source <:+ line.source := by
  obtain ⟨front, hfront⟩ := hbody
  unfold Line.source
  rw [hended, ← hfront]
  split
  · exact ⟨front, (List.append_assoc _ _ _).symm⟩
  · exact ⟨front, rfl⟩

/-- Without its quote mark a line is a part of the line at its end. -/
theorem source_unquote_suffix (line : Line) : line.unquote.source <:+ line.source := by
  have htail := List.tail_suffix line.body
  apply source_suffix
  · unfold Line.unquote
    dsimp only
    split
    · next rest hrest =>
      rw [hrest] at htail
      exact (passSpace_suffix _ _ _).trans ((List.suffix_cons _ _).trans htail)
    · next rest hrest =>
      rw [hrest] at htail
      split
      · exact (passSpace_suffix _ _ _).trans ((List.suffix_cons _ _).trans htail)
      · exact (passSpace_suffix _ _ _).trans htail
    · exact (passSpace_suffix _ _ _).trans htail
  · unfold Line.unquote
    dsimp only
    split
    · rfl
    · split
      · rfl
      · rfl
    · rfl

/-- Without its list mark a line is a part of the line at its end. -/
theorem source_enterItem_suffix (h : mark.rest <:+ line.body) :
    (line.enterItem mark).1.source <:+ line.source :=
  source_suffix ((passSpace_suffix _ _ _).trans h) rfl

theorem rest_suffix_of_orderedMark? {body : Text} (h : orderedMark? body = some mark) :
    mark.rest <:+ body := by
  unfold orderedMark? at h
  dsimp only at h
  split at h
  · next sign rest hrest =>
    split at h
    · obtain rfl := Option.some.inj h
      exact (List.suffix_cons sign rest).trans (hrest ▸ List.drop_suffix _ body)
    · exact nomatch h
  · exact nomatch h

theorem rest_suffix_of_bulletMark? {body : Text} (h : bulletMark? body = some mark) :
    mark.rest <:+ body := by
  unfold bulletMark? at h
  split at h
  · split at h
    · obtain rfl := Option.some.inj h
      exact List.suffix_cons _ _
    · exact nomatch h
  · exact nomatch h

theorem rest_suffix_of_list? (h : frame.list? line = some mark) : mark.rest <:+ line.body := by
  unfold Frame.list? at h
  split at h
  · exact nomatch h
  · unfold listMark? at h
    cases hordered : orderedMark? line.body with
    | some first =>
      rw [hordered] at h
      obtain rfl := Option.some.inj h
      exact rest_suffix_of_orderedMark? hordered
    | none =>
      rw [hordered] at h
      exact rest_suffix_of_bulletMark? h

theorem rest_suffix_of_nextItem? {next : ListMark} (h : nextItem? frame mark line = some next) :
    next.rest <:+ line.body := by
  unfold nextItem? at h
  split at h
  · exact nomatch h
  · split at h
    · next found hfound =>
      have hrest : found.rest <:+ line.body := by
        split at hfound
        · exact rest_suffix_of_orderedMark? hfound
        · exact rest_suffix_of_bulletMark? hfound
      split at h
      · exact Option.some.inj h ▸ hrest
      · exact nomatch h
    · exact nomatch h

/-- The lines of a quote are the ends of the lines that it is read off. -/
theorem trails_quoteLines (frame : Frame) (emptied : Bool) (lines : List Line) :
    Trails (lines.map Line.source) ((quoteLines frame emptied lines).1.map Line.source) := by
  induction lines generalizing emptied with
  | nil => exact Trails.of_prefix List.nil_prefix
  | cons line rest ih =>
    unfold quoteLines
    dsimp only
    split_ifs
    · exact Trails.of_prefix List.nil_prefix
    · exact (ih _).cons (source_unquote_suffix line)
    · exact Trails.of_prefix List.nil_prefix
    · exact Trails.of_prefix List.nil_prefix
    · exact (ih _).cons (source_suffix (List.suffix_refl _) rfl)

/-! ## Definitions on lines -/

/-- Reading the lines of the document that a definition has the numbers of gives the definition,
when the marks of the containers around it are taken off their front. -/
def StandsOn (source : List Text) (definition : LinkDefinition) : Prop :=
  ∃ line pending, definition.endLine = definition.firstLine + (line :: pending).length ∧
    Trails (source.drop definition.firstLine) (line :: pending) ∧
    LinkDefinition.read? definition.firstLine line pending = some definition

/-- What is read as a definition on the lines of a container stands on the lines of the document. -/
theorem standsOn_of_definition? {definition : LinkDefinition}
    (hlines : Trails (source.drop number) ((line :: rest).map Line.source))
    (h : definition? frame number line rest = some definition) : StandsOn source definition := by
  obtain ⟨hfirst, n, hn, hend, hread⟩ := LinkDefinition.read?_take h
  rw [← hfirst] at hlines hend hread
  refine ⟨line.source, _, ?_, hlines.trans (Trails.of_prefix ?_), hread⟩
  · rw [hend, List.length_cons, List.length_take, Nat.min_eq_left hn]
  · rw [List.map_cons, List.cons_prefix_cons, and_iff_right rfl]
    exact (List.take_prefix n _).trans ((List.takeWhile_prefix _).map _)

def AllStand (source : List Text) (taken : Taken) : Prop :=
  ∀ found, taken = .ok found → ∀ definition ∈ found.2, StandsOn source definition

theorem allStand_nil (n : Nat) : AllStand source (.ok (n, [])) := by
  intro found hfound definition hmem
  rw [← Except.ok.inj hfound] at hmem
  exact absurd hmem List.not_mem_nil

theorem allStand_error (fault : Fault) : AllStand source (.error fault) := by
  intro found hfound
  cases hfound

/-- Two walks in a row find standing definitions if each of them does. -/
theorem AllStand.bind {x : Taken} {next : Nat × List LinkDefinition → Taken}
    (hx : AllStand source x)
    (hnext : ∀ found, x = .ok found → (∀ definition ∈ found.2, StandsOn source definition) →
      AllStand source (next found)) : AllStand source (x >>= next) := by
  cases x with
  | error fault => exact allStand_error fault
  | ok found => exact hnext found rfl (hx found rfl)

/-- The walks with so many steps find only definitions that stand on their lines. -/
structure Sound (source : List Text) (fuel : Nat) : Prop where
  blocks : ∀ frame limit number lines, Trails (source.drop number) (lines.map Line.source) →
    AllStand source (blocks fuel frame limit number lines)
  block : ∀ frame limit number line rest,
    Trails (source.drop number) ((line :: rest).map Line.source) →
    AllStand source (block fuel frame limit number line rest)
  quote : ∀ frame number line window rest,
    Trails (source.drop number) ((line :: rest).map Line.source) → window <+: rest →
    AllStand source (quote fuel frame number line window rest)
  items : ∀ frame limit number mark line rest,
    Trails (source.drop number) ((line :: rest).map Line.source) → mark.rest <:+ line.body →
    AllStand source (items fuel frame limit number mark line rest)

theorem sound_zero (source : List Text) : Sound source 0 where
  blocks _ _ _ _ _ := by rw [Block.blocks]; exact allStand_nil _
  block _ _ _ _ _ _ := by rw [Block.block]; exact allStand_nil _
  quote _ _ _ _ _ _ _ := by rw [Block.quote]; exact allStand_nil _
  items _ _ _ _ _ _ _ _ := by rw [Block.items]; exact allStand_nil _

theorem drop_trails (h : Trails (source.drop number) (lines.map Line.source)) (n : Nat) :
    Trails (source.drop (number + n)) ((lines.drop n).map Line.source) := by
  rw [← List.drop_drop, List.map_drop]
  exact h.drop n

namespace Sound

variable {fuel : Nat}

/-- A step of the walk over blocks: the block at the front, and then the rest of the lines. -/
theorem blocks_succ (h : Sound source fuel) (frame : Frame) (limit number : Nat) (lines : List Line)
    (hlines : Trails (source.drop number) (lines.map Line.source)) :
    AllStand source (Block.blocks (fuel + 1) frame limit number lines) := by
  rw [Block.blocks]
  dsimp only
  split
  · exact allStand_nil _
  split
  · exact allStand_nil _
  split
  · exact allStand_nil _
  next line rest hrest =>
  split
  · exact allStand_nil _
  split
  · exact allStand_nil _
  have hdrop := drop_trails hlines (lines.takeWhile Line.isBlank).length
  rw [hrest] at hdrop
  refine (h.block _ _ _ _ _ hdrop).bind fun found _ hfound ↦ ?_
  refine (h.blocks _ _ _ _ (drop_trails hlines _)).bind fun more _ hmore ↦ ?_
  intro all hall definition hmem
  rw [← Except.ok.inj hall] at hmem
  exact (List.mem_append.mp hmem).elim (hfound definition) (hmore definition)

/-- A step of the walk over one block, by the kind of its first line. -/
theorem block_succ (h : Sound source fuel) (frame : Frame) (limit number : Nat) (line : Line)
    (rest : List Line) (hlines : Trails (source.drop number) ((line :: rest).map Line.source)) :
    AllStand source (Block.block (fuel + 1) frame limit number line rest) := by
  rw [Block.block]
  split
  · exact allStand_nil _
  split
  · exact allStand_nil _
  split
  · exact h.quote _ _ _ _ _ hlines (List.take_prefix _ _)
  split
  · exact allStand_nil _
  split
  · next mark hmark => exact h.items _ _ _ _ _ _ hlines (rest_suffix_of_list? hmark)
  split
  · next definition hdefinition =>
    intro found hfound other hother
    rw [← Except.ok.inj hfound, List.mem_singleton] at hother
    exact hother ▸ standsOn_of_definition? hlines hdefinition
  split
  · next kind hkind =>
    cases htmlLength frame kind line (rest.take (limit - 1)) with
    | error fault => exact allStand_error fault
    | ok n => exact allStand_nil n
  split
  · exact allStand_nil _
  split
  · exact allStand_nil _
  · exact allStand_nil _

theorem quote_succ (h : Sound source fuel) (frame : Frame) (number : Nat) (line : Line)
    (window rest : List Line)
    (hlines : Trails (source.drop number) ((line :: rest).map Line.source))
    (hwindow : window <+: rest) :
    AllStand source (Block.quote (fuel + 1) frame number line window rest) := by
  rw [Block.quote]
  apply h.blocks
  -- Inside the quote stand the ends of its lines, and behind them the lines of the container.
  have hmore : Trails (rest.map Line.source)
      ((quoteLines frame line.unquote.isBlank window).1.map Line.source) :=
    (Trails.of_prefix (hwindow.map _)).trans (trails_quoteLines _ _ _)
  have hinside := hmore.cons (source_unquote_suffix line)
  split
  · exact hlines.trans hinside
  · have hseen := hlines.trans hinside.append_drop
    simpa using hseen

/-- After the first item come the items that continue the list. -/
theorem later_items (h : Sound source fuel) {limit : Nat}
    (hlines : Trails (source.drop number) ((line :: rest).map Line.source))
    {found : Nat × List LinkDefinition}
    (hfound : ∀ definition ∈ found.2, StandsOn source definition) : AllStand source
      (if limit ≤ found.1 then .ok found
      else
        match (line :: rest).drop found.1 with
        | [] => .ok found
        | next :: later =>
          match nextItem? frame mark next with
          | none => .ok found
          | some mark => do
            let (more, others) ← Block.items fuel frame (limit - found.1) (number + found.1) mark
              next later
            return (found.1 + more, found.2 ++ others)) := by
  have hdone : AllStand source (.ok found) := fun all hall ↦ Except.ok.inj hall ▸ hfound
  split
  · exact hdone
  split
  · exact hdone
  next next later hnext =>
  split
  · exact hdone
  next mark hmark =>
  have hdrop := drop_trails hlines found.1
  rw [hnext] at hdrop
  refine (h.items _ _ _ _ _ _ hdrop (rest_suffix_of_nextItem? hmark)).bind fun more _ hmore ↦ ?_
  intro all hall definition hmem
  rw [← Except.ok.inj hall] at hmem
  exact (List.mem_append.mp hmem).elim (hfound definition) (hmore definition)

/-- A step of the walk over the items of a list. -/
theorem items_succ (h : Sound source fuel) (frame : Frame) (limit number : Nat) (mark : ListMark)
    (line : Line) (rest : List Line)
    (hlines : Trails (source.drop number) ((line :: rest).map Line.source))
    (hmark : mark.rest <:+ line.body) :
    AllStand source (Block.items (fuel + 1) frame limit number mark line rest) := by
  have hentered : Trails (source.drop number)
      (((line.enterItem mark).1 :: rest).map Line.source) :=
    hlines.trans ((Trails.of_prefix List.prefix_rfl).cons (source_enterItem_suffix hmark))
  rw [Block.items]
  dsimp only
  split
  · exact (allStand_nil _).bind fun _ _ hfound ↦ h.later_items hlines hfound
  · exact (h.blocks _ _ _ _ hentered).bind fun _ _ hfound ↦ h.later_items hlines hfound

end Sound

/-- Whatever the number of steps, all definitions that are found stand on their lines. -/
theorem sound (source : List Text) (fuel : Nat) : Sound source fuel := by
  induction fuel with
  | zero => exact sound_zero source
  | succ fuel ih => exact ⟨ih.blocks_succ, ih.block_succ, ih.quote_succ, ih.items_succ⟩

/-! ## The document -/

theorem mem_of_mem_firstOfLabel {definition : LinkDefinition} {found : List LinkDefinition}
    (h : definition ∈ firstOfLabel found) : definition ∈ found := by
  induction found with
  | nil => exact h
  | cons first more ih =>
    rcases List.mem_cons.mp h with rfl | h
    · exact List.mem_cons_self
    · exact List.mem_cons_of_mem first (ih (List.mem_filter.mp h).1)

/-- The lines of the document with their ends, as blocks see them. -/
def documentLines (t : Text) : List Text := (Text.endedLines true t).map normalize

theorem normalize_cons {c : Char} (hreturn : c ≠ '\r') (t : Text) :
    normalize (c :: t) = visible c :: normalize t := by
  rw [normalize, Text.unifyLineEnds_cons hreturn]
  rfl

theorem normalize_pair (t : Text) : normalize ('\r' :: '\n' :: t) = '\n' :: normalize t := by
  rw [normalize, Text.unifyLineEnds]
  rfl

theorem normalize_return {t : Text} (h : t.head? ≠ some '\n') :
    normalize ('\r' :: t) = '\n' :: normalize t := by
  rw [normalize, Text.unifyLineEnds]
  · rfl
  · exact fun rest hrest ↦ h (by rw [hrest]; rfl)

/-- The lines that blocks see are those of the text that they see. -/
theorem documentLines_eq (t : Text) : documentLines t = Text.endedLines true (normalize t) := by
  have hfirst {c : Char} (hreturn : c ≠ '\r') (ls : List Text) :
      (Text.consFirst c ls).map normalize = Text.consFirst (visible c) (ls.map normalize) := by
    cases ls with
    | nil =>
      change [normalize [c]] = [[visible c]]
      rw [normalize_cons hreturn]
      rfl
    | cons first more => simp [Text.consFirst, normalize_cons hreturn]
  unfold documentLines
  induction t using Text.lineEnd_induction with
  | nil => rfl
  | feed rest ih =>
    have hnormal : normalize ('\n' :: rest) = '\n' :: normalize rest :=
      normalize_cons (by decide) rest
    rw [hnormal, Text.endedLines_feed, Text.endedLines_feed, List.map_cons, ih]
    rfl
  | pair rest ih =>
    rw [normalize_pair, Text.endedLines_pair, Text.endedLines_feed, List.map_cons, ih]
    rfl
  | loneReturn rest hrest ih =>
    rw [normalize_return hrest, Text.endedLines_return true hrest, if_pos rfl,
      Text.endedLines_feed, List.map_cons, ih]
    rfl
  | plain c rest hfeed hreturn ih =>
    rw [normalize_cons hreturn, Text.endedLines_plain true hfeed hreturn, hfirst hreturn, ih,
      Text.endedLines_plain true (visible_ne hfeed (by decide)) (visible_ne hreturn (by decide))]

/-- No carriage return is left for the block structure to see. -/
theorem return_not_mem_normalize (t : Text) : '\r' ∉ normalize t := by
  have hcons {c : Char} (hc : c ≠ '\r') {rest : Text} (hrest : '\r' ∉ rest) : '\r' ∉ c :: rest :=
    List.not_mem_cons_of_ne_of_not_mem (Ne.symm hc) hrest
  induction t using Text.lineEnd_induction with
  | nil => exact List.not_mem_nil
  | feed rest ih => rw [normalize_cons (by decide)]; exact hcons (by decide) ih
  | pair rest ih => rw [normalize_pair]; exact hcons (by decide) ih
  | loneReturn rest hrest ih => rw [normalize_return hrest]; exact hcons (by decide) ih
  | plain c rest hfeed hreturn ih =>
    rw [normalize_cons hreturn]
    exact hcons (visible_ne hreturn (by decide)) ih

theorem linesOf_append_feed {line : Text} (hfeed : '\n' ∉ line) (rest : Text) :
    linesOf (line ++ '\n' :: rest) = Line.ofText line true :: linesOf rest := by
  obtain ⟨first, more, hpieces⟩ := List.exists_cons_of_ne_nil (Text.splitOn_ne_nil '\n' rest)
  unfold linesOf
  rw [Text.splitOn_append_mark, Text.splitOn_of_not_mem hfeed, List.singleton_append, hpieces]
  rfl

/-- The lines of the blocks are the ends of the lines of the document. -/
theorem trails_linesOf (t : Text) :
    Trails (documentLines t) ((linesOf (normalize t)).map Line.source) := by
  rw [documentLines_eq]
  have hreturn := return_not_mem_normalize t
  generalize normalize t = document at hreturn ⊢
  induction document using Text.lines_induction with
  | last line hline =>
    have hlines : linesOf line =
        if line.all isSpaceOrTab then [] else [Line.ofText line false] := by
      rw [linesOf, Text.splitOn_of_not_mem hline]
      rfl
    rw [hlines]
    split
    · exact Trails.of_prefix List.nil_prefix
    · next hspace =>
      have hne : line ≠ [] := by
        rintro rfl
        exact hspace rfl
      rw [Text.endedLines_of_not_mem hne hline hreturn]
      exact (Trails.of_prefix List.prefix_rfl).cons (body_ofText_suffix line false)
  | feed line rest hline ih =>
    have hfront : '\r' ∉ line := fun hmem ↦ hreturn (List.mem_append_left _ hmem)
    have hrest : '\r' ∉ rest := fun hmem ↦
      hreturn (List.mem_append_right _ (List.mem_cons_of_mem _ hmem))
    rw [Text.endedLines_append_feed hline hfront, linesOf_append_feed hline, List.map_cons]
    obtain ⟨space, hspace⟩ := body_ofText_suffix line true
    refine (ih hrest).cons ⟨space, ?_⟩
    calc
      space ++ ((Line.ofText line true).body ++ ['\n'])
        = space ++ (Line.ofText line true).body ++ ['\n'] := (List.append_assoc _ _ _).symm
      _ = line ++ ['\n'] := by rw [hspace]

/-- The numbers that a definition records are those of the lines that it stands on. -/
theorem standsOn_of_mem {t : Text} {definitions : List LinkDefinition}
    (h : LinkDefinition.collect t = .ok definitions) :
    ∀ definition ∈ definitions, StandsOn (documentLines t) definition := by
  intro definition hmem
  have hsound := (sound (documentLines t) (enoughFuel (linesOf (normalize t)))).blocks
    .outermost (linesOf (normalize t)).length 0 _ (trails_linesOf t)
  rw [LinkDefinition.collect] at h
  cases hfound : blocks (enoughFuel (linesOf (normalize t))) .outermost
      (linesOf (normalize t)).length 0 (linesOf (normalize t)) with
  | error fault =>
    rw [hfound] at h
    cases h
  | ok found =>
    rw [hfound] at h
    rw [← Except.ok.inj h] at hmem
    exact hsound found hfound definition (mem_of_mem_firstOfLabel hmem)

end PluginReadme.Block
