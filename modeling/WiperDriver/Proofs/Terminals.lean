import WiperDriver.Proofs.Chip.Conversation

/-!
# Terminal settings in a shared register

Two channels share a terminal control register, and a setting of one of them is merged into the word
that is read. What keeps the two apart is that merging works bit by bit (`applyTo_and_congr`) and
that it leaves every bit outside the channel's own nibble alone (`applyTo_and_of_disjoint`); a
setting that is read back depends on the own nibble only (`ofWord_congr`), and says all there is to
say about it (`nibble_congr`). What is written is read again (`ofWord_applyTo`), and what is read
can be written back (`applyTo_ofWord`).

A merged word is refused if it is too wide for the register. Only the bits above both nibbles decide
this, and these no setting ever changes (`le_maxWord_congr`).
-/

namespace WiperDriver

/-! ## Words and masks -/

theorem or_and_mask (one other mask : UInt16) :
    (one ||| other) &&& mask = (one &&& mask) ||| (other &&& mask) :=
  UInt16.toBitVec_inj.1 BitVec.and_or_distrib_right

theorem and_or_masks (word mask mask' : UInt16) :
    word &&& (mask ||| mask') = (word &&& mask) ||| (word &&& mask') :=
  UInt16.toBitVec_inj.1 BitVec.and_or_distrib_left

/-- Bits outside a mask are left when the mask is cleared. -/
theorem not_and_of_disjoint {mask other : UInt16} (h : mask &&& other = 0) :
    ~~~mask &&& other = other := by
  have hall : (mask ||| ~~~mask) &&& other = other := by
    rw [UInt16.or_not_self, UInt16.and_comm, UInt16.and_neg_one]
  rw [or_and_mask, h, UInt16.zero_or] at hall
  exact hall

/-- Words that agree under a mask agree under every part of it. -/
theorem and_congr_of_part {one other mask part : UInt16} (h : one &&& mask = other &&& mask)
    (hpart : mask &&& part = part) : one &&& part = other &&& part := by
  rw [← hpart, ← UInt16.and_assoc, h, UInt16.and_assoc]

/-- Assigning bits works bit by bit. -/
theorem assign_and_congr {one other mask : UInt16} (h : one &&& mask = other &&& mask)
    (bits : UInt16) (on : Bool) : assign one bits on &&& mask = assign other bits on &&& mask := by
  cases on with
  | true =>
    show (one ||| bits) &&& mask = (other ||| bits) &&& mask
    rw [or_and_mask, or_and_mask, h]
  | false =>
    show (one &&& ~~~bits) &&& mask = (other &&& ~~~bits) &&& mask
    rw [UInt16.and_assoc, UInt16.and_comm (~~~bits), ← UInt16.and_assoc, h, UInt16.and_assoc,
      UInt16.and_assoc, UInt16.and_comm mask]

/-- Assigning bits leaves all others alone. -/
theorem assign_and_of_disjoint {bits mask : UInt16} (h : bits &&& mask = 0) (word : UInt16)
    (on : Bool) : assign word bits on &&& mask = word &&& mask := by
  cases on with
  | true =>
    show (word ||| bits) &&& mask = word &&& mask
    rw [or_and_mask, h, UInt16.or_zero]
  | false =>
    show (word &&& ~~~bits) &&& mask = word &&& mask
    rw [UInt16.and_assoc, not_and_of_disjoint h]

/-! ## Nibbles -/

namespace Channel

/-- The bits of a terminal control register above both nibbles. -/
def terminalRest : UInt16 :=
  ~~~0xFF

/-- Every terminal control register is shared with a sibling. -/
theorem exists_sibling (channel : Channel) :
    ∃ sibling, channel ≠ sibling ∧ channel.terminalSlot = sibling.terminalSlot := by
  cases channel with
  | a => exact ⟨.b, by decide, rfl⟩
  | b => exact ⟨.a, by decide, rfl⟩
  | c => exact ⟨.d, by decide, rfl⟩
  | d => exact ⟨.c, by decide, rfl⟩

/-- Channels that share a terminal control register have different nibbles of it. -/
theorem terminalMask_disjoint {one other : Channel} (h : one ≠ other)
    (hshared : one.terminalSlot = other.terminalSlot) :
    one.terminalMask &&& other.terminalMask = 0 := by
  revert h hshared
  cases one <;> cases other <;> decide

theorem terminalMask_and_rest (channel : Channel) :
    channel.terminalMask &&& terminalRest = 0 := by
  cases channel <;> decide

end Channel

namespace Terminals

/-- A channel's bits belong to its nibble. -/
theorem mask_and_bits (channel : Channel) :
    channel.terminalMask &&& channel.enableBit = channel.enableBit ∧
      channel.terminalMask &&& channel.terminalABit = channel.terminalABit ∧
      channel.terminalMask &&& channel.terminalWBit = channel.terminalWBit ∧
      channel.terminalMask &&& channel.terminalBBit = channel.terminalBBit := by
  cases channel <;> decide

/-- A mask that misses a nibble misses its bits. -/
theorem bits_disjoint {mask nibble bits : UInt16} (h : nibble &&& mask = 0)
    (hbits : nibble &&& bits = bits) : bits &&& mask = 0 := by
  rw [← hbits, UInt16.and_comm nibble, UInt16.and_assoc, h, UInt16.and_zero]

/-- **A setting leaves every bit outside its nibble alone.** -/
theorem applyTo_and_of_disjoint {setting : Terminals} {mask : UInt16}
    (h : setting.channel.terminalMask &&& mask = 0) (word : UInt16) :
    setting.applyTo word &&& mask = word &&& mask := by
  obtain ⟨henable, ha, hw, hb⟩ := mask_and_bits setting.channel
  unfold applyTo
  simp only
  rw [assign_and_of_disjoint (bits_disjoint h hb), assign_and_of_disjoint (bits_disjoint h hw),
    assign_and_of_disjoint (bits_disjoint h ha), assign_and_of_disjoint (bits_disjoint h henable)]

/-- **A setting is merged bit by bit.** -/
theorem applyTo_and_congr {one other mask : UInt16} (h : one &&& mask = other &&& mask)
    (setting : Terminals) : setting.applyTo one &&& mask = setting.applyTo other &&& mask := by
  have henable := assign_and_congr h setting.channel.enableBit setting.enabled
  have ha := assign_and_congr henable setting.channel.terminalABit setting.a
  have hw := assign_and_congr ha setting.channel.terminalWBit setting.w
  exact assign_and_congr hw setting.channel.terminalBBit setting.b

/-- What is read of a setting depends on the nibble of its channel. -/
theorem ofWord_congr {channel : Channel} {one other : UInt16}
    (h : one &&& channel.terminalMask = other &&& channel.terminalMask) :
    ofWord channel one = ofWord channel other := by
  obtain ⟨henable, ha, hw, hb⟩ := mask_and_bits channel
  unfold ofWord
  rw [and_congr_of_part h henable, and_congr_of_part h ha, and_congr_of_part h hw,
    and_congr_of_part h hb]

/-- A word fits a register if it has no bit above the nine of a register. -/
theorem le_maxWord_iff_and (word : UInt16) :
    word ≤ Registers.maxWord ↔ word &&& ~~~Registers.maxWord = 0 := by
  have hmod : (word &&& Registers.maxWord).toNat = word.toNat % 2 ^ 9 := by
    rw [UInt16.toNat_and]
    exact Nat.and_two_pow_sub_one_eq_mod word.toNat 9
  have hsplit : word = (word &&& Registers.maxWord) ||| (word &&& ~~~Registers.maxWord) := by
    rw [← and_or_masks, UInt16.or_not_self, UInt16.and_neg_one]
  constructor
  · intro h
    have hle : word.toNat ≤ 511 := UInt16.le_iff_toNat_le.1 h
    have hword : word &&& Registers.maxWord = word := by
      apply UInt16.toNat_inj.1
      omega
    rw [← hword, UInt16.and_assoc, UInt16.and_not_self, UInt16.and_zero]
  · intro h
    rw [h, UInt16.or_zero] at hsplit
    rw [hsplit]
    exact UInt16.and_le_right

/-- Whether a word fits a register is decided above the nibbles. -/
theorem le_maxWord_congr {one other : UInt16}
    (h : one &&& Channel.terminalRest = other &&& Channel.terminalRest) :
    one ≤ Registers.maxWord ↔ other ≤ Registers.maxWord := by
  rw [le_maxWord_iff_and, le_maxWord_iff_and, and_congr_of_part h (by decide)]

/-- A setting does not make a word too wide, nor narrow enough. -/
theorem applyTo_le_maxWord (setting : Terminals) (word : UInt16) :
    setting.applyTo word ≤ Registers.maxWord ↔ word ≤ Registers.maxWord :=
  le_maxWord_congr (applyTo_and_of_disjoint setting.channel.terminalMask_and_rest word)

end Terminals

/-! ## What is written and what is read -/

/-- The bits that a word shares with a mask are among those of the mask. -/
theorem and_or_mask (word mask : UInt16) : (word &&& mask) ||| mask = mask := by
  apply UInt16.toBitVec_inj.1
  ext place hplace
  simp

/-- Assigned bits are all set or all clear. -/
theorem assign_and_self (word bits : UInt16) (on : Bool) :
    assign word bits on &&& bits = if on then bits else 0 := by
  cases on with
  | true =>
    show (word ||| bits) &&& bits = bits
    rw [or_and_mask, UInt16.and_self, and_or_mask]
  | false =>
    show (word &&& ~~~bits) &&& bits = 0
    rw [UInt16.and_assoc, UInt16.not_and_self, UInt16.and_zero]

/-- So the word tells how they were assigned. -/
theorem assign_and_self_ne_zero {bits : UInt16} (h : bits ≠ 0) (word : UInt16) (on : Bool) :
    (assign word bits on &&& bits != 0) = on := by
  rw [assign_and_self]
  cases on <;> simp [h]

/-- A mask of one bit. -/
def IsBit (mask : UInt16) : Prop :=
  ∃ place, mask.toBitVec = BitVec.twoPow 16 place

/-- A single bit is set in a word or it is not. -/
theorem IsBit.and_eq {bit : UInt16} (h : IsBit bit) (word : UInt16) :
    word &&& bit = bit ∨ word &&& bit = 0 := by
  obtain ⟨place, hplace⟩ := h
  have hand := BitVec.and_twoPow word.toBitVec place
  rw [← hplace] at hand
  cases hset : word.toBitVec.getLsbD place with
  | true => exact .inl (UInt16.toBitVec_inj.1 (hand.trans (if_pos hset)))
  | false => exact .inr (UInt16.toBitVec_inj.1 (hand.trans (if_neg (Bool.eq_false_iff.1 hset))))

/-- Whether it is set says everything about it. -/
theorem IsBit.and_congr {bit one other : UInt16} (h : IsBit bit)
    (hsame : (one &&& bit != 0) = (other &&& bit != 0)) : one &&& bit = other &&& bit := by
  rcases h.and_eq one with hone | hone <;> rcases h.and_eq other with hother | hother <;>
    rw [hone, hother] at hsame ⊢
  · simpa using hsame
  · exact (show bit = 0 by simpa using hsame.symm).symm

/-- Assigning a bit what it is changes nothing. -/
theorem IsBit.assign_own {bit : UInt16} (h : IsBit bit) (word : UInt16) :
    assign word bit (word &&& bit != 0) = word := by
  cases hset : word &&& bit != 0 with
  | true =>
    have hand : word &&& bit = bit := (h.and_eq word).resolve_right (by simpa using hset)
    show word ||| bit = word
    rw [← hand, UInt16.or_comm, UInt16.and_comm, and_or_mask]
  | false =>
    have hand : word &&& bit = 0 := by simpa using hset
    have hsplit : word = (word &&& bit) ||| (word &&& ~~~bit) := by
      rw [← and_or_masks, UInt16.or_not_self, UInt16.and_neg_one]
    rw [hand, UInt16.zero_or] at hsplit
    exact hsplit.symm

theorem Channel.isBit (channel : Channel) : IsBit channel.enableBit ∧
    IsBit channel.terminalABit ∧ IsBit channel.terminalWBit ∧ IsBit channel.terminalBBit := by
  cases channel with
  | a | c => exact ⟨⟨3, rfl⟩, ⟨2, rfl⟩, ⟨1, rfl⟩, ⟨0, rfl⟩⟩
  | b | d => exact ⟨⟨7, rfl⟩, ⟨6, rfl⟩, ⟨5, rfl⟩, ⟨4, rfl⟩⟩

/-- No two of the bits of a channel are one. -/
theorem Channel.bits_apart (channel : Channel) :
    channel.terminalABit &&& channel.enableBit = 0 ∧
      channel.terminalWBit &&& channel.enableBit = 0 ∧
      channel.terminalBBit &&& channel.enableBit = 0 ∧
      channel.terminalWBit &&& channel.terminalABit = 0 ∧
      channel.terminalBBit &&& channel.terminalABit = 0 ∧
      channel.terminalBBit &&& channel.terminalWBit = 0 := by
  cases channel <;> decide

theorem Channel.bits_ne_zero (channel : Channel) : channel.enableBit ≠ 0 ∧
    channel.terminalABit ≠ 0 ∧ channel.terminalWBit ≠ 0 ∧ channel.terminalBBit ≠ 0 := by
  cases channel <;> decide

namespace Terminals

/-- **A setting that is written is read again**, whatever the word was. -/
theorem ofWord_applyTo (setting : Terminals) (word : UInt16) :
    ofWord setting.channel (setting.applyTo word) = setting := by
  obtain ⟨channel, enabled, a, w, b⟩ := setting
  have hkept {bits other : UInt16} (hapart : bits &&& other = 0) (word : UInt16) (on : Bool) :
      (assign word bits on &&& other != 0) = (word &&& other != 0) := by
    rw [assign_and_of_disjoint hapart]
  obtain ⟨hae, hwe, hbe, hwa, hba, hbw⟩ := channel.bits_apart
  obtain ⟨henable, ha, hw, hb⟩ := channel.bits_ne_zero
  unfold ofWord applyTo
  simp only [Terminals.mk.injEq, true_and]
  refine ⟨?_, ?_, ?_, assign_and_self_ne_zero hb _ _⟩
  · rw [hkept hbe, hkept hwe, hkept hae, assign_and_self_ne_zero henable]
  · rw [hkept hba, hkept hwa, assign_and_self_ne_zero ha]
  · rw [hkept hbw, assign_and_self_ne_zero hw]

/-- **A setting that is read can be written back**, and the word is as it was. -/
theorem applyTo_ofWord (channel : Channel) (word : UInt16) :
    (ofWord channel word).applyTo word = word := by
  obtain ⟨henable, ha, hw, hb⟩ := channel.isBit
  unfold applyTo ofWord
  simp only
  rw [henable.assign_own, ha.assign_own, hw.assign_own, hb.assign_own]

/-- The nibble of a channel is what is read of it. -/
theorem nibble_congr {channel : Channel} {one other : UInt16}
    (h : ofWord channel one = ofWord channel other) :
    one &&& channel.terminalMask = other &&& channel.terminalMask := by
  obtain ⟨henable, ha, hw, hb⟩ := channel.isBit
  obtain ⟨-, henabled, hterminalA, hterminalW, hterminalB⟩ := Terminals.mk.inj h
  unfold Channel.terminalMask
  simp only [and_or_masks]
  rw [henable.and_congr henabled, ha.and_congr hterminalA, hw.and_congr hterminalW,
    hb.and_congr hterminalB]

end Terminals

/-- A word is put together from the nibbles of two channels and the rest. -/
theorem eq_of_nibbles {channel sibling : Channel} (h : channel ≠ sibling)
    (hshared : channel.terminalSlot = sibling.terminalSlot) {one other : UInt16}
    (hown : one &&& channel.terminalMask = other &&& channel.terminalMask)
    (hsibling : one &&& sibling.terminalMask = other &&& sibling.terminalMask)
    (hrest : one &&& Channel.terminalRest = other &&& Channel.terminalRest) : one = other := by
  have hwhole : (channel.terminalMask ||| sibling.terminalMask) ||| Channel.terminalRest = -1 := by
    revert h hshared
    cases channel <;> cases sibling <;> decide
  rw [← @UInt16.and_neg_one one, ← @UInt16.and_neg_one other, ← hwhole, and_or_masks, and_or_masks,
    hown, hsibling, hrest, ← and_or_masks, ← and_or_masks]

end WiperDriver
