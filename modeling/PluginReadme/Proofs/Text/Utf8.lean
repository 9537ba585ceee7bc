import Mathlib.Tactic.SplitIfs
import PluginReadme.Proofs.Outcome
import PluginReadme.Text.Utf8

/-!
# Bytes that are text

Decoding gives a text exactly for the bytes that the text is encoded in (`Utf8.decode_eq_ok_iff`).
The first byte of a character says how many bytes follow and bounds the second one, which is just
what it takes to have each code point in its shortest form and none of the surrogates.
-/

namespace PluginReadme.Utf8

variable {bytes rest after tail : Bytes} {byte : UInt8} {t : Text} {c : Char} {need offset : Nat}

/-! ## Reading a character -/

/-- Each further byte lies between bounds and adds six bits. -/
theorem follow_succ_eq_ok_iff {low high value seen v : Nat} :
    follow (need + 1) low high value seen bytes = .ok v ↔
      ∃ byte rest, bytes = byte :: rest ∧ low ≤ byte.toNat ∧ byte.toNat ≤ high ∧
        follow need 0x80 0xBF (value * 64 + (byte.toNat - 0x80)) (seen + 1) rest = .ok v := by
  cases bytes with
  | nil => exact iff_of_false (fun h ↦ by cases h) fun ⟨_, _, h, _⟩ ↦ by cases h
  | cons byte rest =>
    rw [follow]
    split_ifs with h
    · simp only [Bool.and_eq_true, decide_eq_true_eq] at h
      exact ⟨fun hfollow ↦ ⟨byte, rest, rfl, h.1, h.2, hfollow⟩, fun ⟨_, _, heq, _, _, h⟩ ↦ by
        obtain ⟨rfl, rfl⟩ := List.cons.inj heq
        exact h⟩
    · simp only [Bool.and_eq_true, decide_eq_true_eq] at h
      refine iff_of_false (fun h ↦ by cases h) ?_
      rintro ⟨_, _, heq, hlow, hhigh, -⟩
      obtain ⟨rfl, rfl⟩ := List.cons.inj heq
      exact h ⟨hlow, hhigh⟩

/-- A first byte announces one, two or three further ones and bounds the second. -/
theorem lead?_eq_some_iff {n bits low high : Nat} :
    lead? n = some (bits, need, low, high) ↔
      (need = 1 ∧ 0xC2 ≤ n ∧ n ≤ 0xDF ∧ bits = n - 0xC0 ∧ low = 0x80 ∧ high = 0xBF) ∨
      (need = 2 ∧ 0xE0 ≤ n ∧ n ≤ 0xEF ∧ bits = n - 0xE0 ∧
        (n = 0xE0 ∧ low = 0xA0 ∨ n ≠ 0xE0 ∧ low = 0x80) ∧
        (n = 0xED ∧ high = 0x9F ∨ n ≠ 0xED ∧ high = 0xBF)) ∨
      (need = 3 ∧ 0xF0 ≤ n ∧ n ≤ 0xF4 ∧ bits = n - 0xF0 ∧
        (n = 0xF0 ∧ low = 0x90 ∨ n ≠ 0xF0 ∧ low = 0x80) ∧
        (n = 0xF4 ∧ high = 0x8F ∨ n ≠ 0xF4 ∧ high = 0xBF)) := by
  unfold lead?
  simp only [Bool.and_eq_true, decide_eq_true_eq, beq_iff_eq]
  split_ifs <;> simp only [Option.some.injEq, Prod.mk.injEq, false_iff] <;> omega

/-- A byte and what follows it begin with a character, to which so many of the bytes that follow
belong. -/
inductive IsRead (byte : UInt8) (rest : Bytes) : Char → Nat → Prop
  | single (h : byte.toNat < 0x80) : IsRead byte rest (Char.ofNat byte.toNat) 0
  | several {bits need low high v : Nat} (h : ¬ byte.toNat < 0x80)
    (hlead : lead? byte.toNat = some (bits, need, low, high))
    (hfollow : follow need low high bits 1 rest = .ok v) : IsRead byte rest (Char.ofNat v) need

theorem decodeFrom_zero_eq_ok_iff :
    decodeFrom 0 offset (byte :: rest) = .ok t ↔
      ∃ c need more, IsRead byte rest c need ∧ decodeFrom need (offset + 1) rest = .ok more ∧
        t = c :: more := by
  constructor
  · intro h
    rw [decodeFrom] at h
    split_ifs at h with hsingle
    · obtain ⟨more, hmore, ht⟩ := bind_eq_ok.mp h
      exact ⟨_, _, more, .single hsingle, hmore, (Except.ok.inj ht).symm⟩
    · split at h
      · cases h
      · next hlead =>
        split at h
        · cases h
        · next hfollow =>
          obtain ⟨more, hmore, ht⟩ := bind_eq_ok.mp h
          exact ⟨_, _, more, .several hsingle hlead hfollow, hmore, (Except.ok.inj ht).symm⟩
  · rintro ⟨_, _, more, hread | ⟨hsingle, hlead, hfollow⟩, hmore, rfl⟩
    · rw [decodeFrom, if_pos hread, hmore]
      rfl
    · rw [decodeFrom, if_neg hsingle, hlead]
      dsimp only
      rw [hfollow]
      dsimp only
      rw [hmore]
      rfl

/-! ## Encoding a character -/

theorem toNat_ofNat_of_isValidChar {v : Nat} (h : v.isValidChar) :
    (Char.ofNat v).val.toNat = v := by
  rw [Char.ofNat, dif_pos h]
  rfl

/-- Bytes of which the first is a number. -/
theorem cons_eq_of_toNat_eq {n : Nat} (h : n = byte.toNat) (htail : after = tail) :
    UInt8.ofNat n :: after = byte :: tail := by
  rw [h, UInt8.ofNat_toNat, htail]

/-- What is read as a character is what encodes it. -/
theorem IsRead.exists_encoded (h : IsRead byte rest c need) :
    ∃ tail after, rest = tail ++ after ∧ tail.length = need ∧
      String.utf8EncodeChar c = byte :: tail := by
  rcases h with hsingle | ⟨hbyte, hlead, hfollow⟩
  · have hvalid : byte.toNat.isValidChar := Or.inl (by omega)
    refine ⟨[], rest, rfl, rfl, ?_⟩
    rw [String.utf8EncodeChar, toNat_ofNat_of_isValidChar hvalid]
    rw [if_pos (by omega)]
    exact cons_eq_of_toNat_eq rfl rfl
  · rcases lead?_eq_some_iff.mp hlead with h | h | h
    · obtain ⟨rfl, hleast, hmost, hbits, hlow, hhigh⟩ := h
      obtain ⟨b, after, hrest, hb, hb', hv⟩ := follow_succ_eq_ok_iff.mp hfollow
      have hv := Except.ok.inj hv
      refine ⟨[b], after, hrest, rfl, ?_⟩
      rw [String.utf8EncodeChar,
        toNat_ofNat_of_isValidChar (by unfold Nat.isValidChar; omega)]
      rw [if_neg (by omega), if_pos (by omega)]
      exact cons_eq_of_toNat_eq (by omega) (cons_eq_of_toNat_eq (by omega) rfl)
    · obtain ⟨rfl, hleast, hmost, hbits, hlow, hhigh⟩ := h
      obtain ⟨b, more, hrest, hb, hb', hfollow⟩ := follow_succ_eq_ok_iff.mp hfollow
      obtain ⟨d, after, hmore, hd, hd', hv⟩ := follow_succ_eq_ok_iff.mp hfollow
      have hv := Except.ok.inj hv
      refine ⟨[b, d], after, by rw [hrest, hmore]; rfl, rfl, ?_⟩
      rw [String.utf8EncodeChar,
        toNat_ofNat_of_isValidChar (by unfold Nat.isValidChar; omega)]
      rw [if_neg (by omega), if_neg (by omega), if_pos (by omega)]
      exact cons_eq_of_toNat_eq (by omega)
        (cons_eq_of_toNat_eq (by omega) (cons_eq_of_toNat_eq (by omega) rfl))
    · obtain ⟨rfl, hleast, hmost, hbits, hlow, hhigh⟩ := h
      obtain ⟨b, more, hrest, hb, hb', hfollow⟩ := follow_succ_eq_ok_iff.mp hfollow
      obtain ⟨d, others, hmore, hd, hd', hfollow⟩ := follow_succ_eq_ok_iff.mp hfollow
      obtain ⟨e, after, hothers, he, he', hv⟩ := follow_succ_eq_ok_iff.mp hfollow
      have hv := Except.ok.inj hv
      refine ⟨[b, d, e], after, by rw [hrest, hmore, hothers]; rfl, rfl, ?_⟩
      rw [String.utf8EncodeChar,
        toNat_ofNat_of_isValidChar (by unfold Nat.isValidChar; omega)]
      rw [if_neg (by omega), if_neg (by omega), if_neg (by omega)]
      exact cons_eq_of_toNat_eq (by omega) (cons_eq_of_toNat_eq (by omega)
        (cons_eq_of_toNat_eq (by omega) (cons_eq_of_toNat_eq (by omega) rfl)))

/-- The bound that a byte has where one value of it has another than the rest. -/
theorem exists_bound (n special bound other : Nat) :
    ∃ m, n = special ∧ m = bound ∨ n ≠ special ∧ m = other := by
  by_cases h : n = special
  · exact ⟨bound, Or.inl ⟨h, rfl⟩⟩
  · exact ⟨other, Or.inr ⟨h, rfl⟩⟩

/-- What encodes a character is read as that character, whatever follows. -/
theorem isRead_of_encoded (h : String.utf8EncodeChar c = byte :: tail) (after : Bytes) :
    IsRead byte (tail ++ after) c tail.length := by
  obtain ⟨v, hv⟩ : ∃ v, v = c.val.toNat := ⟨_, rfl⟩
  have hc : Char.ofNat v = c := by rw [hv]; exact Char.ofNat_toNat c
  have hvalid : v.isValidChar := hv ▸ c.valid
  unfold Nat.isValidChar at hvalid
  have htoNat (n : Nat) (hn : n < 256) : (UInt8.ofNat n).toNat = n := UInt8.toNat_ofNat_of_lt hn
  rw [String.utf8EncodeChar, ← hv] at h
  subst hc
  split_ifs at h with hone htwo hthree <;> obtain ⟨rfl, rfl⟩ := List.cons.inj h
  · have hfirst := htoNat v (by omega)
    have hread : IsRead (UInt8.ofNat v) ([] ++ after) (Char.ofNat (UInt8.ofNat v).toNat) 0 :=
      .single (by omega)
    rwa [hfirst] at hread
  · have hfirst := htoNat (v / 64 % 32 + 192) (by omega)
    have hlast := htoNat (v % 64 + 128) (by omega)
    have hlead : lead? (UInt8.ofNat (v / 64 % 32 + 192)).toNat = some (v / 64, 1, 0x80, 0xBF) :=
      lead?_eq_some_iff.mpr (Or.inl ⟨rfl, by omega, by omega, by omega, rfl, rfl⟩)
    exact .several (by omega) hlead
      (follow_succ_eq_ok_iff.mpr ⟨_, _, rfl, by omega, by omega, congrArg Except.ok (by omega)⟩)
  · have hfirst := htoNat (v / 4096 % 16 + 224) (by omega)
    have hsecond := htoNat (v / 64 % 64 + 128) (by omega)
    have hlast := htoNat (v % 64 + 128) (by omega)
    obtain ⟨low, hlow⟩ := exists_bound (UInt8.ofNat (v / 4096 % 16 + 224)).toNat 0xE0 0xA0 0x80
    obtain ⟨high, hhigh⟩ := exists_bound (UInt8.ofNat (v / 4096 % 16 + 224)).toNat 0xED 0x9F 0xBF
    have hlead : lead? (UInt8.ofNat (v / 4096 % 16 + 224)).toNat = some (v / 4096, 2, low, high) :=
      lead?_eq_some_iff.mpr (Or.inr (Or.inl ⟨rfl, by omega, by omega, by omega, hlow, hhigh⟩))
    exact .several (by omega) hlead
      (follow_succ_eq_ok_iff.mpr ⟨_, _, rfl, by omega, by omega,
        follow_succ_eq_ok_iff.mpr ⟨_, _, rfl, by omega, by omega, congrArg Except.ok (by omega)⟩⟩)
  · have hfirst := htoNat (v / 262144 % 8 + 240) (by omega)
    have hsecond := htoNat (v / 4096 % 64 + 128) (by omega)
    have hthird := htoNat (v / 64 % 64 + 128) (by omega)
    have hlast := htoNat (v % 64 + 128) (by omega)
    obtain ⟨low, hlow⟩ := exists_bound (UInt8.ofNat (v / 262144 % 8 + 240)).toNat 0xF0 0x90 0x80
    obtain ⟨high, hhigh⟩ := exists_bound (UInt8.ofNat (v / 262144 % 8 + 240)).toNat 0xF4 0x8F 0xBF
    have hlead : lead? (UInt8.ofNat (v / 262144 % 8 + 240)).toNat =
        some (v / 262144, 3, low, high) :=
      lead?_eq_some_iff.mpr (Or.inr (Or.inr ⟨rfl, by omega, by omega, by omega, hlow, hhigh⟩))
    exact .several (by omega) hlead
      (follow_succ_eq_ok_iff.mpr ⟨_, _, rfl, by omega, by omega,
        follow_succ_eq_ok_iff.mpr ⟨_, _, rfl, by omega, by omega,
          follow_succ_eq_ok_iff.mpr ⟨_, _, rfl, by omega, by omega,
            congrArg Except.ok (by omega)⟩⟩⟩)

/-! ## Texts -/

/-- From any place on, bytes decode to exactly the text that they encode. -/
theorem decodeFrom_eq_ok_iff {skip : Nat} :
    decodeFrom skip offset bytes = .ok t ↔ encode t = bytes.drop skip := by
  induction bytes generalizing skip offset t with
  | nil =>
    rw [decodeFrom, List.drop_nil]
    constructor
    · intro h
      rw [← Except.ok.inj h]
      rfl
    · intro h
      cases t with
      | nil => rfl
      | cons c t =>
        exact absurd (List.append_eq_nil_iff.mp h).1 String.utf8EncodeChar_ne_nil
  | cons byte rest ih =>
    cases skip with
    | succ skip =>
      rw [decodeFrom, ih, List.drop_succ_cons]
    | zero =>
      simp only [decodeFrom_zero_eq_ok_iff, ih, List.drop_zero]
      constructor
      · rintro ⟨c, need, more, hread, hmore, rfl⟩
        obtain ⟨tail, after, rfl, rfl, hc⟩ := hread.exists_encoded
        rw [List.drop_left] at hmore
        rw [encode, List.flatMap_cons, hc, ← encode, hmore, List.cons_append]
      · intro h
        cases t with
        | nil => exact absurd h (List.cons_ne_nil _ _).symm
        | cons c more =>
          rw [encode, List.flatMap_cons] at h
          cases hc : String.utf8EncodeChar c with
          | nil => exact absurd hc String.utf8EncodeChar_ne_nil
          | cons first tail =>
            rw [hc, List.cons_append] at h
            obtain ⟨rfl, rfl⟩ := List.cons.inj h
            exact ⟨c, tail.length, more, isRead_of_encoded hc _, List.drop_left.symm, rfl⟩

/-- The bytes that can be decoded are those that encode a text. -/
theorem decode_eq_ok_iff : decode bytes = .ok t ↔ encode t = bytes := decodeFrom_eq_ok_iff

end PluginReadme.Utf8
