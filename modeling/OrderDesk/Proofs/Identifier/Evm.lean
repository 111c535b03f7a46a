import OrderDesk.Proofs.Identifier.Forms

/-!
# Proofs/Identifier/Evm — EVM addresses among the addresses on chains

    twenty bytes ──ofEvm──▸ twenty bytes ⌢ 0 … 0 ──evmAddress──▸ twenty bytes

An EVM address stands at the front of its address on a chain, with twelve zeros behind it, so that it
is got back from there (`evmAddress_ofEvm`).  The way back passes over what stands behind the
twentieth byte.  Membership does not: twenty raw bytes are an address only if zeros stand behind them
there (`containsAddress_iff`).
-/

namespace OrderDesk.ChainAddress

variable {e e' : FixedBytes 20} {c c' : RoutedChain} {a b : ChainAddress} {raw : List UInt8}

/-! ## There and back -/

theorem holds_ofEvm (e : FixedBytes 20) (c : RoutedChain) : (ofEvm e c).Holds e.toList c := by
  refine ⟨?_, rfl⟩
  rw [e.length_eq]
  rfl

theorem toList_ne_nil (e : FixedBytes 20) : e.toList ≠ [] :=
  List.ne_nil_of_length_pos (by rw [e.length_eq]; decide)

/-- **An EVM address is got back from its address on a chain.** -/
theorem evmAddress_ofEvm (e : FixedBytes 20) (c : RoutedChain) : (ofEvm e c).evmAddress = e :=
  FixedBytes.ext_toList (List.take_left' e.length_eq)

theorem ofEvm_inj : ofEvm e c = ofEvm e' c' ↔ e = e' ∧ c = c' := by
  constructor
  · intro h
    have haddress := congrArg evmAddress h
    rw [evmAddress_ofEvm, evmAddress_ofEvm] at haddress
    exact ⟨haddress, congrArg chain h⟩
  · rintro ⟨rfl, rfl⟩
    rfl

/-! ## Membership -/

/-- Raw bytes of either length are an address whose bytes they are, but for zeros behind. -/
theorem containsAddress_eq_true_iff : a.containsAddress raw = true
    ↔ (raw.length = evmWidth ∨ raw.length = 32)
      ∧ a.address.toList = raw ++ List.replicate (32 - raw.length) 0 := by
  rw [← padAddress_eq_ok_iff, containsAddress]
  cases padAddress raw <;> simp

/-- Twenty bytes with zeros behind them are the address, if they are its front and the rest of it is
zero. -/
theorem eq_append_zeros_iff (hlength : raw.length = evmWidth) :
    a.address.toList = raw ++ List.replicate 12 0
      ↔ raw = a.address.toList.take evmWidth
        ∧ a.address.toList.drop evmWidth = List.replicate 12 0 := by
  constructor
  · intro h
    rw [h]
    exact ⟨(List.take_left' hlength).symm, List.drop_left' hlength⟩
  · rintro ⟨hfront, hback⟩
    calc a.address.toList
        = a.address.toList.take evmWidth ++ a.address.toList.drop evmWidth :=
          (List.take_append_drop _ _).symm
      _ = raw ++ List.replicate 12 0 := by rw [hback, ← hfront]

/-- **When raw bytes are an address:** they are all of it, or they are twenty bytes, its front, and the
rest of it is zero. -/
theorem containsAddress_iff : a.containsAddress raw = true
    ↔ raw = a.address.toList ∨ raw.length = evmWidth ∧ raw = a.address.toList.take evmWidth
      ∧ a.address.toList.drop evmWidth = List.replicate 12 0 := by
  rw [containsAddress_eq_true_iff]
  constructor
  · rintro ⟨hlength | hlength, h⟩
    · rw [hlength] at h
      exact .inr ⟨hlength, (eq_append_zeros_iff hlength).mp h⟩
    · rw [hlength, Nat.sub_self, List.replicate_zero, List.append_nil] at h
      exact .inl h.symm
  · rintro (rfl | ⟨hlength, h⟩)
    · refine ⟨.inr a.address.length_eq, ?_⟩
      rw [a.address.length_eq, Nat.sub_self, List.replicate_zero, List.append_nil]
    · refine ⟨.inl hlength, ?_⟩
      rw [hlength]
      exact (eq_append_zeros_iff hlength).mpr h

/-! ## The embedding -/

/-- **EVM addresses embed faithfully.**  An EVM address and a chain, their bytes and every text of them
are one address on a chain, from which the EVM address is got back; another EVM address or another
chain gives another address and another canonical text.  Raw bytes are an address on a chain exactly
if they are its 32 bytes, or its first twenty with nothing but zeros behind. -/
theorem evm_embeds :
    (∀ e c, ofParts e.toList c.toBytes.toList = .ok (ofEvm e c)
      ∧ (∀ s, IsText e.toList c s → parse s = .ok (ofEvm e c))
      ∧ (ofEvm e c).evmAddress = e)
    ∧ (∀ e c e' c', (ofEvm e c = ofEvm e' c' ↔ e = e' ∧ c = c')
      ∧ ((ofEvm e c).text = (ofEvm e' c').text ↔ e = e' ∧ c = c'))
    ∧ ∀ a raw, containsAddress a raw = true
      ↔ raw = a.address.toList ∨ raw.length = evmWidth ∧ raw = a.address.toList.take evmWidth
        ∧ a.address.toList.drop evmWidth = List.replicate 12 0 := by
  refine ⟨fun e c => ⟨?_, fun s hs => ?_, evmAddress_ofEvm e c⟩, fun e c e' c' => ?_,
    fun a raw => containsAddress_iff⟩
  · exact (holds_ofEvm e c).ofParts_eq (k := 0) rfl
  · exact (holds_ofEvm e c).parse_eq (toList_ne_nil e) hs
  · exact ⟨ofEvm_inj, text_inj.trans ofEvm_inj⟩

/-- The twenty bytes 1 to 20 in digits of both cases; a byte behind the twentieth that is not zero
keeps them from being the address. -/
theorem evm_embeds_counted :
    let e : FixedBytes 20 := ⟨(List.range' 1 20).map UInt8.ofNat, rfl⟩
    let c : RoutedChain := .evm ⟨1⟩
    let tailed : ChainAddress := ⟨⟨e.toList ++ List.replicate 11 0 ++ [1], rfl⟩, c⟩
    parse "0x0102030405060708090a0B0c0D0e0F1011121314@000000000000000001" = .ok (ofEvm e c)
      ∧ (ofEvm e c).containsAddress e.toList = true
      ∧ tailed.evmAddress = e ∧ ¬ tailed.containsAddress e.toList = true := by
  intro e c tailed
  obtain ⟨hembeds, -, hcontains⟩ := evm_embeds
  have haddress : Hex.IsText e.toList "0x0102030405060708090a0B0c0D0e0F1011121314".toList :=
    ⟨_, .inr rfl, rfl⟩
  have hchain : Hex.IsText (RoutedChain.evm ⟨1⟩).toBytes.toList "000000000000000001".toList :=
    ⟨_, .inl rfl, rfl⟩
  have htext : IsText e.toList c
      "0x0102030405060708090a0B0c0D0e0F1011121314@000000000000000001" :=
    ⟨_, _, rfl, haddress, hchain⟩
  refine ⟨(hembeds e c).2.1 _ htext, (hcontains _ _).mpr (.inr ⟨rfl, rfl, rfl⟩), rfl, ?_⟩
  rw [hcontains]
  decide

end OrderDesk.ChainAddress
