import XnnTransfer.Protocol.Schema

/-!
# The UTF-8 check of the v1 parser and of the identity codec

`IsValidUtf8` of `native/src/protocol/v1_parser.cpp`, which stands a second time, with
the same text, in `native/src/security/identity/codec.cpp`. The source loops over an
offset; here the loop is the recursion on what is left of the string. The strings that
it accepts are the encodings of scalar values that are neither NUL nor noncharacters.
-/

namespace XnnTransfer.Protocol

def isContinuation (value : UInt8) : Bool := value &&& 0xc0 = 0x80

def isUnicodeNoncharacter (codePoint : Nat) : Bool :=
  (0xfdd0 ≤ codePoint && codePoint ≤ 0xfdef) ||
    (codePoint ≤ 0x10ffff && 0xfffe ≤ codePoint % 0x10000)

/-- The bits of a byte under a mask, as the code point arithmetic uses them. -/
def maskedBits (value mask : UInt8) : Nat := (value &&& mask).toNat

def acceptedCodePoint (codePoint : Nat) : Bool :=
  codePoint ≠ 0 && !isUnicodeNoncharacter codePoint

def isValidUtf8 : Bytes → Bool
  | [] => true
  | first :: rest =>
    if first ≤ 0x7f then
      acceptedCodePoint first.toNat && isValidUtf8 rest
    else if 0xc2 ≤ first && first ≤ 0xdf then
      match rest with
      | second :: rest =>
        isContinuation second &&
          acceptedCodePoint (maskedBits first 0x1f * 64 + maskedBits second 0x3f) &&
          isValidUtf8 rest
      | [] => false
    else if 0xe0 ≤ first && first ≤ 0xef then
      match rest with
      | second :: third :: rest =>
        isContinuation second && isContinuation third &&
          !((first = 0xe0 && second < 0xa0) || (first = 0xed && 0xa0 ≤ second)) &&
          acceptedCodePoint (maskedBits first 0x0f * 4096 + maskedBits second 0x3f * 64 +
            maskedBits third 0x3f) &&
          isValidUtf8 rest
      | _ => false
    else if 0xf0 ≤ first && first ≤ 0xf4 then
      match rest with
      | second :: third :: fourth :: rest =>
        isContinuation second && isContinuation third && isContinuation fourth &&
          !((first = 0xf0 && second < 0x90) || (first = 0xf4 && 0x8f < second)) &&
          acceptedCodePoint (maskedBits first 0x07 * 262144 + maskedBits second 0x3f * 4096 +
            maskedBits third 0x3f * 64 + maskedBits fourth 0x3f) &&
          isValidUtf8 rest
      | _ => false
    else false

/-! ### The strings that are accepted -/

theorem isContinuation_iff (value : UInt8) :
    isContinuation value = true ↔ 128 ≤ value.toNat ∧ value.toNat < 192 := by
  have h : ∀ n : Fin 256, n.val &&& 192 = 128 ↔ 128 ≤ n.val ∧ n.val < 192 := by decide +kernel
  rw [isContinuation, decide_eq_true_eq, ← UInt8.toNat_inj, UInt8.toNat_and]
  exact h ⟨value.toNat, value.toNat_lt⟩

theorem maskedBits_eq (value mask : UInt8) (width : Nat) (h : mask.toNat = 2 ^ width - 1) :
    maskedBits value mask = value.toNat % 2 ^ width := by
  rw [maskedBits, UInt8.toNat_and, h, Nat.and_two_pow_sub_one_eq_mod]

/-- The loop goes on behind the encoding of a scalar value that is accepted. -/
theorem isValidUtf8_encode (scalar : Char) (more : Bytes) :
    isValidUtf8 (String.utf8EncodeChar scalar ++ more) =
      (acceptedCodePoint scalar.val.toNat && isValidUtf8 more) := by
  have hvalid : scalar.val.toNat.isValidChar := scalar.valid
  have hcontinues (number : Nat) : isContinuation (UInt8.ofNat (number % 64 + 128)) = true := by
    rw [isContinuation_iff, UInt8.toNat_ofNat']
    omega
  rw [String.utf8EncodeChar]
  generalize scalar.val.toNat = code at *
  split_ifs with hone htwo hthree
  all_goals
    rw [isValidUtf8.eq_def]
    simp only [maskedBits_eq _ 0x07 3 rfl, maskedBits_eq _ 0x0f 4 rfl, maskedBits_eq _ 0x1f 5 rfl,
      maskedBits_eq _ 0x3f 6 rfl, decide_eq_true_eq, UInt8.le_iff_toNat_le, UInt8.lt_iff_toNat_lt,
      ← UInt8.toNat_inj, UInt8.toNat_ofNat, UInt8.toNat_ofNat',
      List.cons_append, List.nil_append, hcontinues, Bool.true_and, ← Bool.decide_and,
      ← Bool.decide_or, ← decide_not]
  · rw [if_pos (by omega), Nat.mod_eq_of_lt (by omega)]
  · rw [if_neg (by omega), if_pos (by omega)]
    congr 2
    omega
  · rw [if_neg (by omega), if_neg (by omega), if_pos (by omega), decide_eq_true (by omega),
      Bool.true_and]
    congr 2
    omega
  · rw [if_neg (by omega), if_neg (by omega), if_neg (by omega), if_pos (by omega),
      decide_eq_true (by omega), Bool.true_and]
    congr 2
    omega

/-- A string that is accepted begins with the encoding of a scalar value. -/
theorem exists_encode {first : UInt8} {rest : Bytes} (h : isValidUtf8 (first :: rest) = true) :
    ∃ scalar more, first :: rest = String.utf8EncodeChar scalar ++ more := by
  have hbyte (value : UInt8) {number : Nat} (h : value.toNat = number) :
      UInt8.ofNat number = value := h ▸ UInt8.ofNat_toNat
  have hscalar (code : Nat) (more : Bytes) (hvalid : code.isValidChar)
      (hbytes : ∀ scalar : Char, scalar.val.toNat = code →
        first :: rest = String.utf8EncodeChar scalar ++ more) :
      ∃ scalar more, first :: rest = String.utf8EncodeChar scalar ++ more :=
    ⟨Char.ofNatAux code hvalid, more, hbytes (Char.ofNatAux code hvalid) rfl⟩
  rw [isValidUtf8.eq_def] at h
  simp only [decide_eq_true_eq, UInt8.le_iff_toNat_le, UInt8.lt_iff_toNat_lt, ← UInt8.toNat_inj,
    UInt8.toNat_ofNat, ← Bool.decide_and, ← Bool.decide_or, ← decide_not] at h
  split_ifs at h with hone htwo hthree hfour
  · refine hscalar first.toNat rest (by omega) fun scalar hcode => ?_
    rw [String.utf8EncodeChar, if_pos (by omega), hbyte first (by omega)]
    rfl
  · split at h
    next second more =>
      simp only [Bool.and_eq_true, isContinuation_iff] at h
      refine hscalar ((first.toNat - 192) * 64 + (second.toNat - 128)) more (by omega)
        fun scalar hcode => ?_
      rw [String.utf8EncodeChar, if_neg (by omega), if_pos (by omega), hbyte first (by omega),
        hbyte second (by omega)]
      rfl
    · cases h
  · split at h
    next second third more =>
      simp only [Bool.and_eq_true, isContinuation_iff, decide_eq_true_eq] at h
      refine hscalar ((first.toNat - 224) * 4096 + (second.toNat - 128) * 64 +
        (third.toNat - 128)) more (by omega) fun scalar hcode => ?_
      rw [String.utf8EncodeChar, if_neg (by omega), if_neg (by omega), if_pos (by omega),
        hbyte first (by omega), hbyte second (by omega), hbyte third (by omega)]
      rfl
    · cases h
  · split at h
    next second third fourth more =>
      simp only [Bool.and_eq_true, isContinuation_iff, decide_eq_true_eq] at h
      refine hscalar ((first.toNat - 240) * 262144 + (second.toNat - 128) * 4096 +
        (third.toNat - 128) * 64 + (fourth.toNat - 128)) more (by omega) fun scalar hcode => ?_
      rw [String.utf8EncodeChar, if_neg (by omega), if_neg (by omega), if_neg (by omega),
        hbyte first (by omega), hbyte second (by omega), hbyte third (by omega),
        hbyte fourth (by omega)]
      rfl
    · cases h

/-- A scalar value that is neither NUL nor a noncharacter. -/
def Permitted (scalar : Char) : Prop :=
  scalar.toNat ≠ 0 ∧ ¬(0xfdd0 ≤ scalar.toNat ∧ scalar.toNat ≤ 0xfdef) ∧
    scalar.toNat % 0x10000 < 0xfffe

theorem acceptedCodePoint_iff (scalar : Char) :
    acceptedCodePoint scalar.val.toNat = true ↔ Permitted scalar := by
  have hvalid : scalar.toNat.isValidChar := scalar.valid
  simp [acceptedCodePoint, isUnicodeNoncharacter, Permitted]
  omega

theorem isValidUtf8_iff (value : Bytes) :
    isValidUtf8 value = true ↔ ∃ scalars : List Char,
      value = scalars.flatMap String.utf8EncodeChar ∧ ∀ scalar ∈ scalars, Permitted scalar := by
  constructor
  · intro h
    induction hlength : value.length using Nat.strongRecOn generalizing value with
    | ind length ih =>
      cases value with
      | nil => exact ⟨[], rfl, nofun⟩
      | cons first rest =>
        obtain ⟨scalar, more, hvalue⟩ := exists_encode h
        rw [hvalue, isValidUtf8_encode, Bool.and_eq_true, acceptedCodePoint_iff] at h
        rw [hvalue, List.length_append, String.length_utf8EncodeChar] at hlength
        have hpos := scalar.utf8Size_pos
        obtain ⟨scalars, rfl, hpermitted⟩ := ih more.length (by omega) more h.2 rfl
        exact ⟨scalar :: scalars, hvalue, List.forall_mem_cons.mpr ⟨h.1, hpermitted⟩⟩
  · rintro ⟨scalars, rfl, h⟩
    induction scalars with
    | nil => rfl
    | cons scalar scalars ih =>
      obtain ⟨hfirst, hrest⟩ := List.forall_mem_cons.mp h
      rw [List.flatMap_cons, isValidUtf8_encode, (acceptedCodePoint_iff scalar).mpr hfirst,
        ih hrest]
      rfl

end XnnTransfer.Protocol

namespace XnnTransfer.Identity

/-- `IsValidUtf8` of the identity codec. -/
def isValidUtf8 (value : Bytes) : Bool := Protocol.isValidUtf8 value

/-- Both checks accept the same strings: the encodings of permitted scalar values. -/
theorem isValidUtf8_exact (value : Bytes) :
    isValidUtf8 value = Protocol.isValidUtf8 value ∧
      (isValidUtf8 value = true ↔ ∃ scalars : List Char,
        value = scalars.flatMap String.utf8EncodeChar ∧
          ∀ scalar ∈ scalars, Protocol.Permitted scalar) :=
  ⟨rfl, Protocol.isValidUtf8_iff value⟩

end XnnTransfer.Identity
