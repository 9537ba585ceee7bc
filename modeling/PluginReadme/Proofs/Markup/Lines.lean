import PluginReadme.Markup.Render
import PluginReadme.Proofs.Markup.Groups

/-!
# Passes over lines

Every line is trimmed, and then it stays as it is, or an element is put in its place because it is a
heading or stands for a video (`renderedLine_cases`). The line ends before are of no account
(`renderLines_eq_join`). No pass over lines writes a backtick, an opening bracket or an asterisk, so
none of them becomes more frequent (`count_renderLines_le`, `count_withItemHeadings_le`).
-/

namespace PluginReadme.Markup

variable {c : Char} {line t : Text}

/-! ## Videos -/

def Video.name : Video → Text
  | .youTube id => id
  | .vimeo id => id
  | .videoPress id => id

theorem count_frame (hc : c ∈ keptSigns) (kind address allowed : Text) :
    (Video.frame kind address allowed).count c =
      kind.count c + address.count c + allowed.count c := by
  have hopen : ("<div class=\"video-embed " : Text).count c = 0 :=
    count_of_isSignless hc (by decide)
  have hsource : ("-embed\"><iframe width=\"560\" height=\"315\" src=\"" : Text).count c = 0 :=
    count_of_isSignless hc (by decide)
  have hallow : ("\" frameborder=\"0\" allow=\"" : Text).count c = 0 :=
    count_of_isSignless hc (by decide)
  have hclose : ("\" allowfullscreen></iframe></div>" : Text).count c = 0 :=
    count_of_isSignless hc (by decide)
  unfold Video.frame
  simp only [List.count_append, hopen, hsource, hallow, hclose, Nat.zero_add, Nat.add_zero]

theorem count_videoHtml (hc : c ∈ keptSigns) (v : Video) : v.html.count c = v.name.count c := by
  cases v with
  | youTube id =>
    have hkind : ("youtube" : Text).count c = 0 := count_of_isSignless hc (by decide)
    have haddress : ("https://www.youtube.com/embed/" : Text).count c = 0 :=
      count_of_isSignless hc (by decide)
    have hallowed : (("accelerometer; autoplay; clipboard-write; encrypted-media; " ++
        "gyroscope; picture-in-picture").toList).count c = 0 :=
      count_of_isSignless hc (by decide)
    calc
      (Video.youTube id).html.count c = ("youtube" : Text).count c +
          ("https://www.youtube.com/embed/".toList ++ id).count c + _ := count_frame hc _ _ _
      _ = id.count c := by
        rw [List.count_append, hkind, haddress, hallowed, Nat.zero_add, Nat.zero_add, Nat.add_zero]
  | vimeo id =>
    have hkind : ("vimeo" : Text).count c = 0 := count_of_isSignless hc (by decide)
    have haddress : ("https://player.vimeo.com/video/" : Text).count c = 0 :=
      count_of_isSignless hc (by decide)
    have hallowed : ("autoplay; fullscreen; picture-in-picture" : Text).count c = 0 :=
      count_of_isSignless hc (by decide)
    calc
      (Video.vimeo id).html.count c = ("vimeo" : Text).count c +
          ("https://player.vimeo.com/video/".toList ++ id).count c + _ := count_frame hc _ _ _
      _ = id.count c := by
        rw [List.count_append, hkind, haddress, hallowed, Nat.zero_add, Nat.zero_add, Nat.add_zero]
  | videoPress id =>
    have hopen : ("<div class=\"video-embed videopress-embed\"><p><em>VideoPress video: " :
        Text).count c = 0 := count_of_isSignless hc (by decide)
    have hclose : ("</em></p></div>" : Text).count c = 0 := count_of_isSignless hc (by decide)
    have hentity : c ∉ entityChars := not_mem_of_isSignless hc (by decide)
    unfold Video.html
    rw [List.count_append, List.count_append, count_escape hentity, hopen, hclose,
      Nat.zero_add, Nat.add_zero]
    rfl

theorem isElement_videoHtml (v : Video) : IsElement v.html := by
  have hframe (kind address allowed : Text) : IsElement (Video.frame kind address allowed) := by
    refine ⟨rfl, ?_⟩
    unfold Video.frame
    rw [List.getLast?_append]
    rfl
  cases v with
  | youTube id => exact hframe _ _ _
  | vimeo id => exact hframe _ _ _
  | videoPress id =>
    refine ⟨rfl, ?_⟩
    unfold Video.html
    rw [List.getLast?_append]
    rfl

theorem afterScheme?_eq_some {rest : Text} (h : Video.afterScheme? line = some rest) :
    line.head? = some 'h' ∧ rest.Sublist line := by
  unfold Video.afterScheme? at h
  obtain ⟨tail, htail, rfl⟩ := Option.map_eq_some_iff.mp h
  obtain ⟨scheme, hscheme, rfl⟩ := Text.exists_append_of_after? htail
  have hhead : scheme.head? = some 'h' := by rcases hscheme with rfl | rfl <;> rfl
  refine ⟨by rw [List.head?_append, hhead]; rfl, ?_⟩
  refine List.Sublist.trans ?_ (List.sublist_append_right scheme tail)
  cases hwww : Text.after? "www." tail with
  | none => exact List.Sublist.refl tail
  | some found =>
    obtain rfl := Text.after?_eq_some_iff.mp hwww
    exact List.sublist_append_right _ _

/-- An address of a video starts with an `h`, and the name of the video is taken from it. -/
theorem youTube?_eq_some {v : Video} (h : Video.youTube? line = some v) :
    line.head? = some 'h' ∧ v.name.Sublist line := by
  unfold Video.youTube? at h
  obtain ⟨rest, hrest, h⟩ := Option.bind_eq_some_iff.mp h
  obtain ⟨tail, htail, h⟩ := Option.bind_eq_some_iff.mp h
  dsimp only at h
  split_ifs at h
  obtain rfl := Option.some.inj h
  obtain ⟨hhead, hsub⟩ := afterScheme?_eq_some hrest
  obtain ⟨start, -, rfl⟩ := Text.exists_append_of_after? htail
  exact ⟨hhead, (List.takeWhile_sublist _).trans ((List.sublist_append_right _ _).trans hsub)⟩

theorem vimeo?_eq_some {v : Video} (h : Video.vimeo? line = some v) :
    line.head? = some 'h' ∧ v.name.Sublist line := by
  unfold Video.vimeo? at h
  obtain ⟨rest, hrest, h⟩ := Option.bind_eq_some_iff.mp h
  obtain ⟨tail, htail, h⟩ := Option.bind_eq_some_iff.mp h
  dsimp only at h
  split_ifs at h
  obtain rfl := Option.some.inj h
  obtain ⟨hhead, hsub⟩ := afterScheme?_eq_some hrest
  obtain rfl := Text.after?_eq_some_iff.mp htail
  exact ⟨hhead, (List.takeWhile_sublist _).trans ((List.sublist_append_right _ _).trans hsub)⟩

/-- A code of a video starts with a bracket, and the name of the video is taken from it. -/
theorem videoPress?_eq_some {v : Video} (h : Video.videoPress? line = some v) :
    line.head? = some '[' ∧ v.name.Sublist line := by
  unfold Video.videoPress? at h
  obtain ⟨rest, hrest, h⟩ := Option.bind_eq_some_iff.mp h
  dsimp only at h
  split_ifs at h
  obtain rfl := Option.some.inj h
  obtain rfl := Text.after?_eq_some_iff.mp hrest
  exact ⟨rfl, (Text.trim_sublist isBlank _).trans
    ((List.takeWhile_sublist _).trans (List.sublist_append_right _ _))⟩

/-- A line that stands for a video begins as an address or a code does. -/
theorem ofLine?_eq_some {v : Video} (h : Video.ofLine? line = some v) :
    (line.head? = some 'h' ∨ line.head? = some '[') ∧ v.name.Sublist line := by
  have hprefix : Text.dropFinalFeed line <+: line := by
    unfold Text.dropFinalFeed
    split_ifs
    · exact List.dropLast_prefix line
    · exact List.prefix_refl line
  have hfound : ((Text.dropFinalFeed line).head? = some 'h' ∨
      (Text.dropFinalFeed line).head? = some '[') ∧ v.name.Sublist (Text.dropFinalFeed line) := by
    simp only [Video.ofLine?, Option.orElse_eq_orElse, Option.orElse_eq_or,
      Option.or_eq_some_iff] at h
    rcases h with h | ⟨-, h | ⟨-, h⟩⟩
    · exact (youTube?_eq_some h).imp_left .inl
    · exact (vimeo?_eq_some h).imp_left .inl
    · exact (videoPress?_eq_some h).imp_left .inr
  have hhead {c : Char} (hc : (Text.dropFinalFeed line).head? = some c) : line.head? = some c := by
    obtain ⟨rest, hrest⟩ := hprefix
    rw [← hrest, List.head?_append, hc]
    rfl
  exact ⟨hfound.1.imp hhead hhead, hfound.2.trans hprefix.sublist⟩

/-! ## Single lines -/

def renderedLine (options : Options) (line : Text) : Text := headingLine (renderLine options line)

/-- A heading is a title behind its number signs, and an element with the title takes its place. -/
theorem headingLine_cases (line : Text) : headingLine line = line ∨
    ∃ more tag title, isSignless more = true ∧ isSignless tag = true ∧
      line = '#' :: more ++ title ∧ headingLine line = element tag title := by
  have hsplit := List.takeWhile_append_dropWhile (p := (· == '#')) (l := line)
  have hall := Text.forall_mem_takeWhile (· == '#') line
  unfold headingLine
  dsimp only
  rw [Text.drop_length_takeWhile]
  generalize line.takeWhile (· == '#') = signs at hsplit hall ⊢
  generalize line.dropWhile (· == '#') = rest at hsplit ⊢
  split
  · next title =>
    split_ifs with hguard
    · right
      obtain ⟨hlevel, -⟩ := Bool.and_eq_true_iff.mp hguard
      obtain ⟨hleast, hmost⟩ := Bool.and_eq_true_iff.mp hlevel
      rw [decide_eq_true_eq] at hleast hmost
      have htag : ∀ n ≤ 6, 3 ≤ n → isSignless ('h' :: Text.ofNat n) = true := by decide
      obtain ⟨sign, signs, rfl⟩ :=
        List.exists_cons_of_ne_nil (show signs ≠ [] by rintro rfl; simp at hleast)
      obtain ⟨hsign, hsigns⟩ := List.forall_mem_cons.mp hall
      obtain rfl : sign = '#' := eq_of_beq hsign
      refine ⟨signs ++ [' '], 'h' :: Text.ofNat (signs.length + 1), title, ?_,
        htag _ hmost hleast, ?_, rfl⟩
      · rw [isSignless, List.all_append, Bool.and_eq_true]
        refine ⟨List.all_eq_true.mpr fun c hc ↦ ?_, by decide⟩
        rw [eq_of_beq (hsigns c hc)]
        decide
      · rw [← hsplit]
        simp
    · exact .inl rfl
  · exact .inl rfl

/-- A line is written without the blanks around it, or as the player of a video. -/
theorem renderLine_cases (options : Options) (line : Text) :
    renderLine options line = Text.strip line ∨
      ∃ v, Video.ofLine? (Text.strip line) = some v ∧ renderLine options line = v.html := by
  rw [renderLine]
  split_ifs
  · cases hvideo : Video.ofLine? (Text.strip line) with
    | none => exact .inl rfl
    | some v => exact .inr ⟨v, rfl, rfl⟩
  · exact .inl rfl

theorem headingLine_of_isElement (h : IsElement t) : headingLine t = t := by
  rcases headingLine_cases t with heq | ⟨more, tag, title, -, -, rfl, -⟩
  · exact heq
  · exact absurd (Option.some.inj h.head) (by decide)

/-- A line is trimmed, or an element is put in its place, although it did not begin as one. -/
theorem renderedLine_cases (options : Options) (line : Text) :
    renderedLine options line = Text.strip line ∨
      (∃ c, (Text.strip line).head? = some c ∧ c ≠ '<') ∧
        IsElement (renderedLine options line) := by
  rw [renderedLine]
  rcases renderLine_cases options line with hplain | ⟨v, hvideo, hhtml⟩
  · rw [hplain]
    rcases headingLine_cases (Text.strip line) with heq | ⟨more, tag, title, -, -, hline, helement⟩
    · exact .inl heq
    · rw [helement, hline]
      exact .inr ⟨⟨'#', rfl, by decide⟩, isElement_element tag title⟩
  · rw [hhtml, headingLine_of_isElement (isElement_videoHtml v)]
    refine .inr ⟨?_, isElement_videoHtml v⟩
    rcases (ofLine?_eq_some hvideo).1 with hhead | hhead
    · exact ⟨'h', hhead, by decide⟩
    · exact ⟨'[', hhead, by decide⟩

/-- A line has no blank at either end after the passes. -/
theorem isTrimmed_renderedLine (options : Options) (line : Text) :
    Text.IsTrimmed isBlank (renderedLine options line) := by
  rcases renderedLine_cases options line with heq | ⟨-, helement⟩
  · rw [heq]
    exact Text.isTrimmed_trim isBlank line
  · exact helement.isTrimmed

theorem count_renderedLine_le (hc : c ∈ keptSigns) (options : Options) (line : Text) :
    (renderedLine options line).count c ≤ line.count c := by
  have hstrip : (Text.strip line).count c ≤ line.count c :=
    (Text.trim_sublist isBlank line).count_le c
  rw [renderedLine]
  rcases renderLine_cases options line with hplain | ⟨v, hvideo, hhtml⟩
  · rw [hplain]
    rcases headingLine_cases (Text.strip line) with
      heq | ⟨more, tag, title, -, htag, hline, helement⟩
    · rw [heq]
      exact hstrip
    · rw [helement, count_element hc htag]
      rw [hline] at hstrip
      exact ((List.sublist_append_right _ title).count_le c).trans hstrip
  · rw [hhtml, headingLine_of_isElement (isElement_videoHtml v), count_videoHtml hc]
    exact ((ofLine?_eq_some hvideo).2.count_le c).trans hstrip

/-- A line that begins with a backtick is neither a heading nor a video. -/
theorem renderedLine_of_backtick (options : Options) {rest : Text}
    (h : Text.strip line = '\x60' :: rest) : renderedLine options line = Text.strip line := by
  rw [renderedLine]
  rcases renderLine_cases options line with hplain | ⟨v, hvideo, -⟩
  · rw [hplain, h]
    rcases headingLine_cases ('\x60' :: rest) with heq | ⟨more, tag, title, -, -, hline, -⟩
    · exact heq
    · exact absurd (List.cons.inj hline).1 (by decide)
  · rw [h] at hvideo
    rcases (ofLine?_eq_some hvideo).1 with hhead | hhead <;>
      exact absurd (Option.some.inj hhead) (by decide)

/-- The blanks around a line do not matter to the passes. -/
theorem renderedLine_strip (options : Options) (line : Text) :
    renderedLine options (Text.strip line) = renderedLine options line := by
  rw [renderedLine, renderLine, Text.strip_strip]
  rfl

theorem map_renderedLine_eq (options : Options) (ls : List Text) :
    ls.map (renderedLine options) = (ls.map Text.strip).map (renderedLine options) := by
  simp only [List.map_map, Function.comp_def, renderedLine_strip]

/-- A trimmed line that is neither a video nor a heading stays. -/
theorem renderedLine_eq_self_iff (h : Text.strip line = line) :
    renderedLine {} line = line ↔ Video.ofLine? line = none ∧ headingLine line = line := by
  have hrender : renderLine {} line = ((Video.ofLine? line).map Video.html).getD line := by
    rw [renderLine, h]
    rfl
  rw [renderedLine, hrender]
  cases hvideo : Video.ofLine? line with
  | none => exact (and_iff_right rfl).symm
  | some v =>
    refine iff_of_false (fun heq ↦ ?_) fun hboth ↦ absurd hboth.1 (by simp)
    have hhtml : v.html = line := (headingLine_of_isElement (isElement_videoHtml v)).symm.trans heq
    have hless := hhtml ▸ (isElement_videoHtml v).head
    rcases (ofLine?_eq_some hvideo).1 with hhead | hhead <;>
      exact absurd (Option.some.inj (hless.symm.trans hhead)) (by decide)

/-! ## All lines -/

/-- The line ends do not matter, since every line is trimmed. -/
theorem renderLines_eq_join (options : Options) (t : Text) : renderLines options t =
    Text.join ['\n'] (grouped ((Text.splitOn '\n' t).map (renderedLine options))) := by
  have hlines : (Text.lines t).map (renderedLine options) =
      (Text.splitOn '\n' t).map (renderedLine options) := by
    rw [map_renderedLine_eq, map_renderedLine_eq options (Text.splitOn '\n' t),
      Text.map_strip_lines]
  rw [← hlines]
  rfl

theorem count_flatten_map_le {f : Text → Text} (hf : ∀ line, (f line).count c ≤ line.count c)
    (ls : List Text) : (ls.map f).flatten.count c ≤ ls.flatten.count c := by
  induction ls with
  | nil => exact Nat.le_refl 0
  | cons line ls ih =>
    have hline := hf line
    rw [List.map_cons, List.flatten_cons, List.flatten_cons, List.count_append, List.count_append]
    omega

/-- The passes over lines add none of the signs that are read across lines. -/
theorem count_renderLines_le (hc : c ∈ keptSigns) (hfeed : c ≠ '\n') (options : Options)
    (t : Text) : (renderLines options t).count c ≤ t.count c := by
  have hglue : ['\n'].count c = 0 := List.count_eq_zero.mpr (by simpa using hfeed)
  calc (renderLines options t).count c
      = (grouped ((Text.splitOn '\n' t).map (renderedLine options))).flatten.count c := by
        rw [renderLines_eq_join, count_join hglue]
    _ ≤ ((Text.splitOn '\n' t).map (renderedLine options)).flatten.count c := count_grouped_le hc _
    _ ≤ (Text.splitOn '\n' t).flatten.count c :=
        count_flatten_map_le (count_renderedLine_le hc options) _
    _ = t.count c := by
        conv_rhs => rw [← Text.join_splitOn '\n' t, count_join hglue]

/-! ## Headings of items -/

def titledLine (line : Text) : Text :=
  match itemTitle? line with
  | some title => "### " ++ title
  | none => line

theorem withItemHeadings_eq_join (t : Text) :
    withItemHeadings t = Text.join ['\n'] ((Text.splitOn '\n' t).map titledLine) :=
  rfl

theorem titledLine_of_none (h : itemTitle? line = none) : titledLine line = line := by
  rw [titledLine, h]

theorem titledLine_of_some {title : Text} (h : itemTitle? line = some title) :
    titledLine line = "### " ++ title := by
  rw [titledLine, h]

theorem isBlank_of_isGap (h : isGap c = true) : isBlank c = true := by
  rcases Bool.or_eq_true_iff.mp h with h | h <;> rw [eq_of_beq h] <;> decide

theorem head_strip_of_trim_isGap {rest : Text} (h : Text.trim isGap line = '=' :: rest) :
    (Text.strip line).head? = some '=' := by
  obtain ⟨front, tail, hline, hfront, -⟩ := Text.exists_trim isGap line
  have hblank : ∀ c ∈ front, isBlank c = true := fun c hc ↦ isBlank_of_isGap (hfront c hc)
  rw [hline, h, List.append_assoc]
  exact Text.head_strip_append hblank (by decide) (rest ++ tail)

/-- The heading of an item starts with an equals sign, and its title is a part of it. -/
theorem itemTitle?_eq_some {title : Text} (h : itemTitle? line = some title) :
    (Text.strip line).head? = some '=' ∧ title.Sublist line := by
  unfold itemTitle? at h
  dsimp only at h
  split at h
  · next rest htrim =>
    have hinside : rest.dropLast.Sublist line :=
      ((List.dropLast_sublist rest).trans (List.sublist_cons_self '=' rest)).trans
        (htrim ▸ Text.trim_sublist isGap line)
    refine ⟨head_strip_of_trim_isGap htrim, List.Sublist.trans ?_ hinside⟩
    split_ifs at h
    · exact Option.some.inj h ▸ Text.trim_sublist isGap _
    · obtain ⟨c, hc, rfl⟩ := Option.map_eq_some_iff.mp h
      exact List.singleton_sublist.mpr (List.mem_of_getLast? hc)
  · exact absurd h (by simp)

theorem count_titledLine_le (hc : c ∈ keptSigns) (line : Text) :
    (titledLine line).count c ≤ line.count c := by
  have hmark : ("### " : Text).count c = 0 := count_of_isSignless hc (by decide)
  cases htitle : itemTitle? line with
  | none => rw [titledLine_of_none htitle]
  | some title =>
    rw [titledLine_of_some htitle, List.count_append, hmark, Nat.zero_add]
    exact (itemTitle?_eq_some htitle).2.count_le c

theorem splitOn_withItemHeadings (t : Text) :
    Text.splitOn '\n' (withItemHeadings t) = (Text.splitOn '\n' t).map titledLine := by
  apply Text.splitOn_join
  · simpa using Text.splitOn_ne_nil '\n' t
  · intro line hline
    obtain ⟨raw, hraw, rfl⟩ := List.mem_map.mp hline
    exact not_mem_of_count_le (count_titledLine_le (by decide) raw)
      (Text.not_mem_of_mem_splitOn hraw)

theorem withItemHeadings_of_forall (h : ∀ line ∈ Text.splitOn '\n' t, itemTitle? line = none) :
    withItemHeadings t = t := by
  rw [withItemHeadings_eq_join]
  conv_rhs => rw [← Text.join_splitOn '\n' t]
  congr 1
  exact (List.map_congr_left fun line hline ↦ titledLine_of_none (h line hline)).trans
    (List.map_id _)

/-- Headings of items add none of the signs that are read across lines. -/
theorem count_withItemHeadings_le (hc : c ∈ keptSigns) (hfeed : c ≠ '\n') (t : Text) :
    (withItemHeadings t).count c ≤ t.count c := by
  have hglue : ['\n'].count c = 0 := List.count_eq_zero.mpr (by simpa using hfeed)
  have hlines := count_flatten_map_le (count_titledLine_le hc) (Text.splitOn '\n' t)
  rw [withItemHeadings_eq_join, count_join hglue]
  conv_rhs => rw [← Text.join_splitOn '\n' t, count_join hglue]
  exact hlines

/-! ## Lines that stay -/

def shownLine (line : Text) : Text := renderedLine {} (titledLine line)

/-- A line is trimmed, or something else that stands alone is put in its place. -/
theorem shownLine_cases (line : Text) :
    itemTitle? line = none ∧ shownLine line = Text.strip line ∨
      (∃ c, (Text.strip line).head? = some c ∧ (shownLine line).head? ≠ some c) ∧
        StandsAlone (shownLine line) := by
  cases htitle : itemTitle? line with
  | none =>
    rw [shownLine, titledLine_of_none htitle]
    rcases renderedLine_cases {} line with heq | ⟨⟨c, hhead, hc⟩, helement⟩
    · exact .inl ⟨rfl, heq⟩
    · refine .inr ⟨⟨c, hhead, ?_⟩, helement.standsAlone⟩
      rw [helement.head]
      exact fun heq ↦ hc (Option.some.inj heq).symm
  | some title =>
    right
    have hhead := (itemTitle?_eq_some htitle).1
    rw [shownLine, titledLine_of_some htitle]
    rcases renderedLine_cases {} ("### " ++ title) with heq | ⟨-, helement⟩
    · have hhash : (Text.strip ("### " ++ title)).head? = some '#' :=
        Text.head_strip_append (List.forall_mem_nil _) (show isBlank '#' = false by decide)
          ('#' :: '#' :: ' ' :: title)
      obtain ⟨rest, hrest⟩ := List.head?_eq_some_iff.mp hhash
      rw [heq, hrest]
      exact ⟨⟨'=', hhead, fun heq ↦ absurd (Option.some.inj heq) (by decide)⟩, rfl, rfl⟩
    · refine ⟨⟨'=', hhead, ?_⟩, helement.standsAlone⟩
      rw [helement.head]
      decide

/-- Lines come out of all passes as they were trimmed exactly if no pass looks at one of them. -/
theorem grouped_map_shownLine_eq_iff {ls : List Text} :
    grouped (ls.map shownLine) = ls.map Text.strip ↔
      ∀ line ∈ ls, itemTitle? line = none ∧ shownLine line = Text.strip line ∧
        StandsAlone (Text.strip line) := by
  constructor
  · intro h
    induction ls with
    | nil => simp
    | cons line ls ih =>
      have halone : StandsAlone (shownLine line) := by
        by_contra hnot
        obtain ⟨first, more, hgrouped, hfirst⟩ :=
          exists_grouped_of_not_standsAlone hnot (ls.map shownLine)
        rw [List.map_cons, List.map_cons, hgrouped] at h
        obtain ⟨rfl, -⟩ := List.cons.inj h
        rcases shownLine_cases line with ⟨-, heq⟩ | ⟨-, halone⟩
        · exact hnot (heq ▸ hfirst.standsAlone)
        · exact hnot halone
      rw [List.map_cons, List.map_cons, grouped_cons halone] at h
      obtain ⟨hline, hrest⟩ := List.cons.inj h
      refine List.forall_mem_cons.mpr ⟨⟨?_, hline, hline ▸ halone⟩, ih hrest⟩
      rcases shownLine_cases line with ⟨htitle, -⟩ | ⟨⟨c, hhead, hne⟩, -⟩
      · exact htitle
      · exact absurd (hline ▸ hhead) hne
  · intro h
    have hmap : ls.map shownLine = ls.map Text.strip :=
      List.map_congr_left fun line hline ↦ (h line hline).2.1
    rw [hmap, grouped_of_forall]
    intro line hline
    obtain ⟨raw, hraw, rfl⟩ := List.mem_map.mp hline
    exact (h raw hraw).2.2

/-- What passes look at in one line only happens line by line. -/
theorem renderLines_withItemHeadings (t : Text) : renderLines {} (withItemHeadings t) =
    Text.join ['\n'] (grouped ((Text.splitOn '\n' t).map shownLine)) := by
  rw [renderLines_eq_join, splitOn_withItemHeadings, List.map_map]
  rfl

/-- Blank lines are no headings of items and stay blank. -/
theorem map_shownLine_of_blank {ls : List Text} {n : Nat}
    (h : ls.map Text.strip = List.replicate n []) :
    ls.map shownLine = List.replicate n [] ∧ ∀ line ∈ ls, itemTitle? line = none := by
  have hline : ∀ line ∈ ls, itemTitle? line = none ∧ shownLine line = Text.strip line := by
    intro line hmem
    have hblank : Text.strip line = [] :=
      List.eq_of_mem_replicate (h ▸ List.mem_map_of_mem hmem)
    rcases shownLine_cases line with hplain | ⟨⟨c, hhead, -⟩, -⟩
    · exact hplain
    · rw [hblank] at hhead
      exact absurd hhead (by simp)
  exact ⟨(List.map_congr_left fun line hmem ↦ (hline line hmem).2).trans h,
    fun line hmem ↦ (hline line hmem).1⟩

theorem isTrimmed_of_mem_grouped {ls : List Text} (h : line ∈ grouped (ls.map shownLine)) :
    Text.strip line = line := by
  rcases mem_grouped h with hmem | helement
  · obtain ⟨raw, -, rfl⟩ := List.mem_map.mp hmem
    exact Text.trim_eq_self (isTrimmed_renderedLine {} _)
  · exact Text.trim_eq_self helement.isTrimmed

theorem feed_not_mem_shownLine (h : '\n' ∉ line) : '\n' ∉ shownLine line := by
  have hle := (count_renderedLine_le (c := '\n') (by decide) {} (titledLine line)).trans
    (count_titledLine_le (by decide) line)
  exact not_mem_of_count_le hle h

/-- The lines between the blank ones give the trimmed text back exactly if none of them changes.
Otherwise there would be fewer lines, or a blank more inside. -/
theorem strip_join_grouped_eq_iff {ls : List Text} (hfeed : ∀ line ∈ ls, '\n' ∉ line)
    (hls : ls.map Text.strip = (Text.splitOn '\n' (Text.strip t)).map Text.strip) :
    Text.strip (Text.join ['\n'] (grouped (ls.map shownLine))) = Text.strip t ↔
      grouped (ls.map shownLine) = ls.map Text.strip ∧
        ls.map Text.strip = Text.splitOn '\n' (Text.strip t) := by
  have hpieces := Text.splitOn_ne_nil '\n' (Text.strip t)
  have hne : ls ≠ [] := by
    rintro rfl
    exact hpieces (by simpa using hls.symm)
  constructor
  · intro h
    have hgroupedFeed : ∀ line ∈ grouped (ls.map shownLine), '\n' ∉ line := fun line hmem ↦
      feed_not_mem_of_mem_grouped (fun other hother ↦ by
        obtain ⟨raw, hraw, rfl⟩ := List.mem_map.mp hother
        exact feed_not_mem_shownLine (hfeed raw hraw)) hmem
    have hgroupedStrip : (grouped (ls.map shownLine)).map Text.strip = grouped (ls.map shownLine) :=
      (List.map_congr_left fun line hmem ↦ isTrimmed_of_mem_grouped hmem).trans (List.map_id _)
    obtain ⟨before, after, hpadded⟩ :=
      Text.exists_map_strip_splitOn (Text.join ['\n'] (grouped (ls.map shownLine)))
    rw [Text.splitOn_join (grouped_ne_nil (by simpa using hne)) hgroupedFeed, hgroupedStrip, h,
      ← hls] at hpadded
    have hlength := congrArg List.length hpadded
    have hle := length_grouped_le (ls.map shownLine)
    simp only [List.length_append, List.length_replicate, List.length_map] at hlength hle
    obtain ⟨rfl, rfl⟩ : before = 0 ∧ after = 0 := by omega
    have hsame : grouped (ls.map shownLine) = ls.map Text.strip := by simpa using hpadded
    refine ⟨hsame, ?_⟩
    -- Both texts are a part of the other one, so trimming the lines deletes nothing.
    have hone : (Text.join ['\n'] (ls.map Text.strip)).Sublist (Text.strip t) := by
      rw [hls]
      conv_rhs => rw [← Text.join_splitOn '\n' (Text.strip t)]
      exact Text.join_map_strip_sublist _
    have htwo : (Text.strip t).Sublist (Text.join ['\n'] (ls.map Text.strip)) := by
      rw [← hsame, ← h]
      exact Text.trim_sublist isBlank _
    have hjoin := hone.antisymm htwo
    rw [← hjoin, Text.splitOn_join (by simpa using hne)]
    intro line hline
    rw [← hsame] at hline
    exact hgroupedFeed line hline
  · rintro ⟨hsame, hlines⟩
    rw [hsame, hlines, Text.join_splitOn, Text.strip_strip]

/-- No pass over lines takes the line for anything else or trims it. -/
structure IsInert (line : Text) : Prop where
  trimmed : Text.strip line = line
  noVideo : Video.ofLine? line = none
  noHeading : headingLine line = line
  noQuote : Text.after? "> " line = none
  noItem : item? line = none

/-- A line is inert exactly if it stays in each of the passes. -/
theorem isInert_iff : IsInert line ↔
    Text.strip line = line ∧ renderedLine {} line = line ∧ StandsAlone line := by
  constructor
  · intro h
    exact ⟨h.trimmed, (renderedLine_eq_self_iff h.trimmed).mpr ⟨h.noVideo, h.noHeading⟩,
      h.noQuote, h.noItem⟩
  · rintro ⟨htrimmed, hrendered, hquote, hitem⟩
    obtain ⟨hvideo, hheading⟩ := (renderedLine_eq_self_iff htrimmed).mp hrendered
    exact ⟨htrimmed, hvideo, hheading, hquote, hitem⟩

theorem shownLine_of_itemTitle? (h : itemTitle? line = none) :
    shownLine line = renderedLine {} (Text.strip line) := by
  rw [shownLine, titledLine_of_none h, renderedLine_strip]

/-- The passes over lines give the trimmed text back exactly if all of its lines are inert and none
is the heading of an item. -/
theorem strip_renderLines_eq_iff (t : Text) :
    Text.strip (renderLines {} (withItemHeadings t)) = Text.strip t ↔
      (∀ line ∈ Text.splitOn '\n' t, itemTitle? line = none) ∧
        ∀ line ∈ Text.splitOn '\n' (Text.strip t), IsInert line := by
  obtain ⟨before, after, hpadded⟩ := Text.exists_map_strip_splitOn t
  obtain ⟨front, back, hsplit, hfront, hback⟩ := List.map_eq_append_iff.mp hpadded
  obtain ⟨head, middle, rfl, hhead, hmiddle⟩ := List.map_eq_append_iff.mp hfront
  obtain ⟨hheadShown, hheadPlain⟩ := map_shownLine_of_blank hhead
  obtain ⟨hbackShown, hbackPlain⟩ := map_shownLine_of_blank hback
  have hfeed : ∀ line ∈ middle, '\n' ∉ line := fun line hline ↦
    Text.not_mem_of_mem_splitOn (t := t) (by rw [hsplit]; simp [hline])
  have hne : grouped (middle.map shownLine) ≠ [] := by
    apply grouped_ne_nil
    intro hnil
    have hlength := congrArg List.length hmiddle
    rw [List.length_map, List.length_map, ← List.length_map shownLine, hnil] at hlength
    exact Text.splitOn_ne_nil '\n' (Text.strip t) (List.length_eq_zero_iff.mp hlength.symm)
  have hshown : Text.strip (renderLines {} (withItemHeadings t)) =
      Text.strip (Text.join ['\n'] (grouped (middle.map shownLine))) := by
    calc
      Text.strip (renderLines {} (withItemHeadings t)) =
          Text.strip (Text.join ['\n'] (grouped
            (head.map shownLine ++ middle.map shownLine ++ back.map shownLine))) := by
        rw [renderLines_withItemHeadings, hsplit, List.map_append, List.map_append]
      _ = Text.strip (Text.join ['\n'] (grouped (middle.map shownLine))) := by
        rw [hheadShown, hbackShown, grouped_padded, Text.strip_join_padded _ _ hne]
  rw [hshown, strip_join_grouped_eq_iff hfeed hmiddle, grouped_map_shownLine_eq_iff, hsplit]
  constructor
  · rintro ⟨hplain, hlines⟩
    refine ⟨?_, ?_⟩
    · intro line hline
      simp only [List.mem_append] at hline
      rcases hline with (hline | hline) | hline
      · exact hheadPlain line hline
      · exact (hplain line hline).1
      · exact hbackPlain line hline
    · rw [← hlines]
      intro line hline
      obtain ⟨raw, hraw, rfl⟩ := List.mem_map.mp hline
      obtain ⟨htitle, hsame, halone⟩ := hplain raw hraw
      exact isInert_iff.mpr
        ⟨Text.strip_strip raw, (shownLine_of_itemTitle? htitle).symm.trans hsame, halone⟩
  · rintro ⟨htitles, hinert⟩
    have hlines : middle.map Text.strip = Text.splitOn '\n' (Text.strip t) :=
      hmiddle.trans ((List.map_congr_left fun line hline ↦ (hinert line hline).trimmed).trans
        (List.map_id _))
    refine ⟨fun line hline ↦ ?_, hlines⟩
    have htitle := htitles line (by simp [hline])
    obtain ⟨-, hrendered, halone⟩ :=
      isInert_iff.mp (hinert (Text.strip line) (hlines ▸ List.mem_map_of_mem hline))
    exact ⟨htitle, (shownLine_of_itemTitle? htitle).trans hrendered, halone⟩

end PluginReadme.Markup
