import PluginReadme.Block.Definition

/-!
# The lines of a definition

A definition is read line by line, and no line after the last one that is taken has a say in it. So
the lines that a definition takes give it when they are read alone (`read?_take`).
-/

namespace PluginReadme.LinkDefinition

variable {line rest label title : Text} {pending : List Text} {taken last : Nat}
  {start after cursor : Cursor}

/-! ## Places -/

/-- The place, without the lines that would make more than `last` taken ones. -/
def Cursor.upTo (last : Nat) (cursor : Cursor) : Cursor :=
  { cursor with pending := cursor.pending.take (last - cursor.taken) }

/-- The lines between two places are taken, the ones after the second place are left. -/
def Cursor.Reaches (start after : Cursor) : Prop :=
  ∃ used, start.pending = used ++ after.pending ∧ after.taken = start.taken + used.length

namespace Cursor.Reaches

theorem refl (rest left : Text) (pending : List Text) (taken : Nat) :
    Reaches ⟨rest, pending, taken⟩ ⟨left, pending, taken⟩ :=
  ⟨[], rfl, rfl⟩

theorem trans {middle : Cursor} (h : Reaches start middle) (h' : Reaches middle after) :
    Reaches start after := by
  obtain ⟨used, hpending, htaken⟩ := h
  obtain ⟨more, hpending', htaken'⟩ := h'
  refine ⟨used ++ more, ?_, ?_⟩
  · rw [hpending, hpending', List.append_assoc]
  · rw [htaken', htaken, List.length_append, Nat.add_assoc]

theorem next {next : Text} (h : Reaches ⟨next, pending, taken + 1⟩ after) :
    Reaches ⟨rest, next :: pending, taken⟩ after := by
  have hone : Reaches ⟨rest, next :: pending, taken⟩ ⟨next, pending, taken + 1⟩ :=
    ⟨[next], rfl, rfl⟩
  exact hone.trans h

theorem taken_le (h : Reaches start after) : start.taken ≤ after.taken := by
  obtain ⟨used, -, htaken⟩ := h
  omega

/-- Taking lines changes nothing about their number. -/
theorem total_eq (h : Reaches start after) :
    after.taken + after.pending.length = start.taken + start.pending.length := by
  obtain ⟨used, hpending, htaken⟩ := h
  rw [hpending, List.length_append]
  omega

/-- Where no line is taken, the same lines may follow. -/
theorem pending_eq (h : Reaches start after) (htaken : start.taken = after.taken) :
    start.pending = after.pending := by
  obtain ⟨used, hpending, hlength⟩ := h
  have hnil : used = [] := List.length_eq_zero_iff.mp (by omega)
  rw [hpending, hnil, List.nil_append]

end Cursor.Reaches

/-- The next line is there if more lines than before may be taken. -/
theorem take_cons_pending (h : taken < last) (next : Text) (more : List Text) :
    (next :: more).take (last - taken) = next :: more.take (last - (taken + 1)) := by
  obtain ⟨n, rfl⟩ : ∃ n, last = taken + 1 + n := ⟨last - (taken + 1), by omega⟩
  rw [show taken + 1 + n - taken = n + 1 by omega, show taken + 1 + n - (taken + 1) = n by omega,
    List.take_succ_cons]

/-! ## Readers -/

theorem passSpace_reaches (rest : Text) (pending : List Text) (taken : Nat) :
    Cursor.Reaches ⟨rest, pending, taken⟩ (passSpace rest pending taken) := by
  induction pending generalizing rest taken with
  | nil => exact Cursor.Reaches.refl _ _ _ _
  | cons next more ih =>
    unfold passSpace
    dsimp only
    split
    · exact (ih next (taken + 1)).next
    · exact Cursor.Reaches.refl _ _ _ _

theorem passSpace_upTo (h : (passSpace rest pending taken).taken ≤ last) :
    passSpace rest (pending.take (last - taken)) taken =
      (passSpace rest pending taken).upTo last := by
  induction pending generalizing rest taken with
  | nil => simp [passSpace, Cursor.upTo]
  | cons next more ih =>
    unfold passSpace at h
    dsimp only at h
    split at h
    · next hfeed =>
      have hlt : taken < last := Nat.le_trans (passSpace_reaches next more (taken + 1)).taken_le h
      rw [take_cons_pending hlt, passSpace, passSpace, if_pos hfeed, if_pos hfeed, ih h]
    · next hfeed =>
      have hself : passSpace rest (next :: more) taken =
          ⟨rest.dropWhile Block.isSpaceOrTab, next :: more, taken⟩ := by
        rw [passSpace]
        exact if_neg hfeed
      rw [hself]
      unfold Cursor.upTo
      dsimp only
      cases (next :: more).take (last - taken) with
      | nil =>
        rw [passSpace, if_neg hfeed]
      | cons first others =>
        rw [passSpace]
        exact if_neg hfeed

/-- Reads over lines up to where a stretch is closed; `decode` is what becomes of each line. -/
def closed? (stretch : Text → Stretch) (decode : Text → Text) :
    (line : Text) → (pending : List Text) → (taken : Nat) → Option (Text × Cursor)
  | line, pending, taken =>
    match stretch line with
    | .closed content rest => some (decode content, ⟨rest, pending, taken⟩)
    | .broken => none
    | .running content =>
      match pending with
      | [] => none
      | next :: more => (closed? stretch decode next more (taken + 1)).map fun (read, cursor) ↦
        (decode content ++ read, cursor)

/-- Labels are stretches that are closed by a bracket, and nothing in them is decoded. -/
theorem label?_eq_closed? (line : Text) (pending : List Text) (taken : Nat) :
    label? line pending taken = closed? labelStretch id line pending taken := by
  induction pending generalizing line taken with
  | nil =>
    unfold label? closed?
    rfl
  | cons next more ih =>
    unfold label? closed?
    dsimp only
    rw [ih]
    cases labelStretch line with
    | closed content rest => rfl
    | broken => rfl
    | running content => cases closed? labelStretch id next more (taken + 1) <;> rfl

/-- Titles are stretches that are closed by their mark, with the escaped characters decoded. -/
theorem titleFrom?_eq_closed? (close : Char) (line : Text) (pending : List Text) (taken : Nat) :
    titleFrom? close line pending taken =
      closed? (titleStretch close) Entity.decode line pending taken := by
  induction pending generalizing line taken with
  | nil =>
    unfold titleFrom? closed?
    rfl
  | cons next more ih =>
    unfold titleFrom? closed?
    dsimp only
    rw [ih]
    cases titleStretch close line with
    | closed content rest => rfl
    | broken => rfl
    | running content =>
      cases closed? (titleStretch close) Entity.decode next more (taken + 1) <;> rfl

section Closed

variable {stretch : Text → Stretch} {decode : Text → Text} {read : Text}

/-- The stretch is closed on the line, or it runs on and is closed further down. -/
theorem closed?_eq_some_iff : closed? stretch decode line pending taken = some (read, after) ↔
    (∃ content rest, stretch line = .closed content rest ∧ read = decode content ∧
      after = ⟨rest, pending, taken⟩) ∨
    ∃ content next more inner, stretch line = .running content ∧ pending = next :: more ∧
      closed? stretch decode next more (taken + 1) = some (inner, after) ∧
      read = decode content ++ inner := by
  conv =>
    lhs
    unfold closed?
  constructor
  · intro h
    cases hstretch : stretch line with
    | closed content rest =>
      rw [hstretch] at h
      obtain ⟨rfl, rfl⟩ := Prod.mk.inj (Option.some.inj h)
      exact Or.inl ⟨content, rest, rfl, rfl, rfl⟩
    | broken =>
      rw [hstretch] at h
      exact nomatch h
    | running content =>
      rw [hstretch] at h
      cases pending with
      | nil => exact nomatch h
      | cons next more =>
        obtain ⟨⟨inner, found⟩, hinner, heq⟩ := Option.map_eq_some_iff.mp h
        obtain ⟨rfl, rfl⟩ := Prod.mk.inj heq
        exact Or.inr ⟨content, next, more, inner, rfl, rfl, hinner, rfl⟩
  · rintro (⟨content, rest, hstretch, rfl, rfl⟩ |
      ⟨content, next, more, inner, hstretch, rfl, hinner, rfl⟩)
    · rw [hstretch]
    · rw [hstretch]
      exact Option.map_eq_some_iff.mpr ⟨(inner, after), hinner, rfl⟩

theorem closed?_reaches (h : closed? stretch decode line pending taken = some (read, after)) :
    Cursor.Reaches ⟨line, pending, taken⟩ after := by
  induction pending generalizing line taken read with
  | nil =>
    rcases closed?_eq_some_iff.mp h with ⟨_, _, -, -, rfl⟩ | ⟨_, _, _, _, -, hnil, -⟩
    · exact Cursor.Reaches.refl _ _ _ _
    · exact nomatch hnil
  | cons next more ih =>
    rcases closed?_eq_some_iff.mp h with ⟨_, _, -, -, rfl⟩ | ⟨_, _, _, _, -, heq, hinner, -⟩
    · exact Cursor.Reaches.refl _ _ _ _
    · obtain ⟨rfl, rfl⟩ := List.cons.inj heq
      exact (ih hinner).next

/-- Lines behind the last one that a stretch takes do not matter to it. -/
theorem closed?_upTo (h : closed? stretch decode line pending taken = some (read, after))
    (hlast : after.taken ≤ last) :
    closed? stretch decode line (pending.take (last - taken)) taken =
      some (read, after.upTo last) := by
  induction pending generalizing line taken read with
  | nil =>
    rcases closed?_eq_some_iff.mp h with ⟨_, rest, hclosed, hread, rfl⟩ | ⟨_, _, _, _, -, hnil, -⟩
    · exact closed?_eq_some_iff.mpr (Or.inl ⟨_, rest, hclosed, hread, rfl⟩)
    · exact nomatch hnil
  | cons next more ih =>
    rcases closed?_eq_some_iff.mp h with
      ⟨_, rest, hclosed, hread, rfl⟩ | ⟨_, _, _, inner, hrunning, heq, hinner, hread⟩
    · exact closed?_eq_some_iff.mpr (Or.inl ⟨_, rest, hclosed, hread, rfl⟩)
    · obtain ⟨rfl, rfl⟩ := List.cons.inj heq
      have hlt : taken < last := Nat.le_trans (closed?_reaches hinner).taken_le hlast
      exact closed?_eq_some_iff.mpr (Or.inr ⟨_, next, _, inner, hrunning,
        take_cons_pending hlt next more, ih hinner, hread⟩)

end Closed

/-! ## Titles -/

/-- The mark that closes a title, and the line behind the mark that opens it. -/
def opened? : Text → Option (Char × Text)
  | '\"' :: rest => some ('\"', rest)
  | '\'' :: rest => some ('\'', rest)
  | '(' :: rest => some (')', rest)
  | _ => none

theorem title?_eq_bind (cursor : Cursor) : title? cursor = (opened? cursor.rest).bind
    fun (close, rest) ↦
      closed? (titleStretch close) Entity.decode rest cursor.pending cursor.taken := by
  unfold title?
  split
  · next rest hrest => rw [hrest]; exact titleFrom?_eq_closed? _ _ _ _
  · next rest hrest => rw [hrest]; exact titleFrom?_eq_closed? _ _ _ _
  · next rest hrest => rw [hrest]; exact titleFrom?_eq_closed? _ _ _ _
  · next hdouble hsingle hround =>
    have hnone : opened? cursor.rest = none := by
      unfold opened?
      split
      · next rest hrest => exact absurd hrest (hdouble rest)
      · next rest hrest => exact absurd hrest (hsingle rest)
      · next rest hrest => exact absurd hrest (hround rest)
      · rfl
    rw [hnone]
    rfl

theorem title?_reaches (h : title? cursor = some (title, after)) : cursor.Reaches after := by
  rw [title?_eq_bind] at h
  obtain ⟨⟨close, rest⟩, -, hclosed⟩ := Option.bind_eq_some_iff.mp h
  exact Cursor.Reaches.trans (Cursor.Reaches.refl _ _ _ _) (closed?_reaches hclosed)

/-- Lines behind the last one that a title takes do not matter to it. -/
theorem title?_upTo (h : title? cursor = some (title, after)) (hlast : after.taken ≤ last) :
    title? (cursor.upTo last) = some (title, after.upTo last) := by
  rw [title?_eq_bind] at h ⊢
  obtain ⟨⟨close, rest⟩, hopened, hclosed⟩ := Option.bind_eq_some_iff.mp h
  exact Option.bind_eq_some_iff.mpr ⟨(close, rest), hopened, closed?_upTo hclosed hlast⟩

def Cursor.afterSpace (cursor : Cursor) : Cursor :=
  passSpace cursor.rest cursor.pending cursor.taken

theorem Cursor.reaches_afterSpace (cursor : Cursor) : cursor.Reaches cursor.afterSpace :=
  passSpace_reaches _ _ _

theorem Cursor.afterSpace_upTo (h : cursor.afterSpace.taken ≤ last) :
    (cursor.upTo last).afterSpace = cursor.afterSpace.upTo last :=
  passSpace_upTo h

/-- A title counts if white space parts it from the address or if it runs over several lines. -/
def Cursor.Parts (cursor after : Cursor) : Prop :=
  cursor.afterSpace ≠ cursor ∨ cursor.afterSpace.taken < after.taken

/-- There is no title and the address ends its line, or the title ends its own. -/
theorem titleAfter?_eq_some {found : Option Text} (h : titleAfter? cursor = some (found, taken)) :
    (atLineEnd cursor.rest = true ∧ found = none ∧ taken = cursor.taken) ∨
    ∃ title after, title? cursor.afterSpace = some (title, after) ∧ cursor.Parts after ∧
      atLineEnd after.rest = true ∧ found = (if title.isEmpty then none else some title) ∧
      taken = after.taken := by
  have huntitled (h : (if atLineEnd cursor.rest then some ((none : Option Text), cursor.taken)
      else none) = some (found, taken)) :
      atLineEnd cursor.rest = true ∧ found = none ∧ taken = cursor.taken := by
    split at h
    · next hend =>
      obtain ⟨rfl, rfl⟩ := Prod.mk.inj (Option.some.inj h)
      exact ⟨hend, rfl, rfl⟩
    · exact nomatch h
  unfold titleAfter? at h
  dsimp only at h
  split at h
  · exact Or.inl (huntitled h)
  · next title after htitle =>
    obtain ⟨htitle, hcounts⟩ := Option.filter_eq_some_iff.mp htitle
    split at h
    · next hend =>
      obtain ⟨rfl, rfl⟩ := Prod.mk.inj (Option.some.inj h)
      refine Or.inr ⟨title, after, htitle, ?_, hend, rfl, rfl⟩
      simpa [Cursor.Parts, Cursor.afterSpace] using hcounts
    · split at h
      · exact nomatch h
      · exact Or.inl (huntitled h)

/-- Without a further line nothing but the end of the line can follow an address. -/
theorem titleAfter?_of_atLineEnd (h : atLineEnd cursor.rest = true)
    (hpending : cursor.pending = []) : titleAfter? cursor = some (none, cursor.taken) := by
  have hrest : cursor.afterSpace.rest = [] := by
    unfold Cursor.afterSpace
    rw [hpending, passSpace]
    unfold atLineEnd at h
    split at h
    · next hleft => rw [hleft]; rfl
    · next c left hleft => rw [hleft, beq_iff_eq.mp h]; rfl
  have hnone : title? cursor.afterSpace = none := by
    rw [title?_eq_bind, hrest]
    rfl
  unfold titleAfter?
  dsimp only
  rw [← Cursor.afterSpace, hnone, Option.filter_none, if_pos h]

theorem titleAfter?_of_title? (htitle : title? cursor.afterSpace = some (title, after))
    (hparts : cursor.Parts after) (hend : atLineEnd after.rest = true) :
    titleAfter? cursor = some (if title.isEmpty then none else some title, after.taken) := by
  have hcounts : (title? cursor.afterSpace).filter (fun found ↦
      cursor.afterSpace != cursor || cursor.afterSpace.taken < found.2.taken) =
        some (title, after) := by
    refine Option.filter_eq_some_iff.mpr ⟨htitle, ?_⟩
    simpa [Cursor.Parts] using hparts
  unfold titleAfter?
  dsimp only
  rw [← Cursor.afterSpace, hcounts]
  exact if_pos hend

/-- Without the lines that the title does not take, it is the same. -/
theorem titleAfter?_upTo {found : Option Text} (h : titleAfter? cursor = some (found, taken)) :
    titleAfter? (cursor.upTo taken) = some (found, taken) := by
  rcases titleAfter?_eq_some h with
    ⟨hend, rfl, rfl⟩ | ⟨title, after, htitle, hparts, hend, rfl, rfl⟩
  · refine titleAfter?_of_atLineEnd hend ?_
    rw [Cursor.upTo, Nat.sub_self, List.take_zero]
  · have hspace := Cursor.afterSpace_upTo (title?_reaches htitle).taken_le
    have hupTo : title? (cursor.upTo after.taken).afterSpace =
        some (title, after.upTo after.taken) := by
      rw [hspace]
      exact title?_upTo htitle (Nat.le_refl _)
    have hparts' : (cursor.upTo after.taken).Parts (after.upTo after.taken) := by
      unfold Cursor.Parts
      rw [hspace]
      refine hparts.imp_left fun hne heq ↦ hne ?_
      -- The white space is the same, so no line was taken, and the same lines may follow.
      obtain ⟨hrest, -, htaken⟩ := Cursor.mk.inj heq
      have hpending := cursor.reaches_afterSpace.pending_eq htaken.symm
      change Cursor.mk cursor.afterSpace.rest cursor.afterSpace.pending cursor.afterSpace.taken =
        cursor
      rw [← hpending, htaken]
      exact congrArg (fun rest ↦ Cursor.mk rest cursor.pending cursor.taken) hrest
    have hend' : atLineEnd (after.upTo after.taken).rest = true := hend
    have hfound := titleAfter?_of_title? hupTo hparts' hend'
    exact hfound

/-- A title takes no more lines than there are. -/
theorem titleAfter?_le {found : Option Text} (h : titleAfter? cursor = some (found, taken)) :
    cursor.taken ≤ taken ∧ taken ≤ cursor.taken + cursor.pending.length := by
  rcases titleAfter?_eq_some h with ⟨-, -, rfl⟩ | ⟨title, after, htitle, -, -, -, rfl⟩
  · exact ⟨Nat.le_refl _, Nat.le_add_right _ _⟩
  · have hreaches := cursor.reaches_afterSpace.trans (title?_reaches htitle)
    have htotal := hreaches.total_eq
    exact ⟨hreaches.taken_le, by omega⟩

/-! ## Definitions -/

/-- A definition has a number and takes some of the lines that it is given; these alone give it. -/
theorem read?_take {number : Nat} {definition : LinkDefinition}
    (h : read? number line pending = some definition) :
    definition.firstLine = number ∧ ∃ n ≤ pending.length, definition.endLine = number + (n + 1) ∧
      read? number line (pending.take n) = some definition := by
  unfold read? at h
  obtain ⟨body, hbody, h⟩ := Option.bind_eq_some_iff.mp h
  obtain ⟨⟨label, afterLabel⟩, hlabel, h⟩ := Option.bind_eq_some_iff.mp h
  obtain ⟨colon, hcolon, h⟩ := Option.bind_eq_some_iff.mp h
  obtain ⟨⟨written, rest⟩, haddress, h⟩ := Option.bind_eq_some_iff.mp h
  dsimp only at h
  split at h
  · exact nomatch h
  next hallowed =>
  obtain ⟨⟨title, taken⟩, htitle, h⟩ := Option.bind_eq_some_iff.mp h
  dsimp only at h
  split at h
  · exact nomatch h
  next hnamed =>
  obtain rfl := Option.some.inj h
  rw [label?_eq_closed?] at hlabel
  have hreaches := (closed?_reaches hlabel).trans
    ((Cursor.Reaches.refl _ colon _ _).trans (passSpace_reaches colon _ _))
  obtain ⟨hstart, hend⟩ := titleAfter?_le htitle
  have hle : afterLabel.taken ≤ taken :=
    Nat.le_trans (passSpace_reaches colon afterLabel.pending afterLabel.taken).taken_le hstart
  have hspace := passSpace_upTo hstart
  have hone : 1 ≤ afterLabel.taken := (closed?_reaches hlabel).taken_le
  have htotal : _ = 1 + pending.length := hreaches.total_eq
  refine ⟨rfl, taken - 1, ?_, ?_, ?_⟩
  · dsimp only at hend
    omega
  · dsimp only
    omega
  · refine Option.bind_eq_some_iff.mpr ⟨body, hbody, ?_⟩
    refine Option.bind_eq_some_iff.mpr ⟨(label, afterLabel.upTo taken), ?_, ?_⟩
    · rw [label?_eq_closed?]
      exact closed?_upTo hlabel hle
    refine Option.bind_eq_some_iff.mpr ⟨colon, hcolon, ?_⟩
    dsimp only [Cursor.upTo]
    rw [hspace]
    refine Option.bind_eq_some_iff.mpr ⟨(written, rest), haddress, ?_⟩
    dsimp only
    rw [if_neg hallowed]
    refine Option.bind_eq_some_iff.mpr ⟨(title, taken), titleAfter?_upTo htitle, ?_⟩
    dsimp only
    rw [if_neg hnamed]
    rfl

end PluginReadme.LinkDefinition
