import TradingAggregators.Solana.SponsoredRun

/-!
# Signature slots

## 1.  The required signers

A compiled message asks for the signatures of its first static keys.  `userSignerIndex` asks
that the payer comes first, that the wallet is among them and that nobody else is; on distinct
keys this leaves one list (`userSignerIndex_eq_ok`).

## 2.  Filling the slots

`runs_sign`: a run that succeeds asked each signer once and put the answers where the keys are.
`signature_slots_filled` puts both together.
-/

namespace TradingAggregators
namespace Solana

open Interaction Interaction.Program Rust Wire

/-! ## 1.  The required signers -/

/-- The keys that have to sign, if the message holds that many. -/
def VersionedMessage.requiredSigners (m : VersionedMessage) : Option (List Pubkey) :=
  if m.header.numRequiredSignatures.toNat ≤ m.staticAccountKeys.length then
    some (m.staticAccountKeys.take m.header.numRequiredSignatures.toNat)
  else none

/-- The signers a swap expects: the user, behind the sponsor if there is one. -/
def SwapSigners.expected (signers : SwapSigners) (wallet : Pubkey) : List Pubkey :=
  match signers.sponsor with
  | none => [wallet]
  | some sponsor => [sponsor.wallet, wallet]

section Lists

variable {α : Type} {a b : α} {l : List α}

/-- A list without repetitions that holds one element only. -/
theorem eq_singleton_of_nodup (hl : l.Nodup) (hb : b ∈ l) (hall : ∀ x ∈ l, x = b) :
    l = [b] := by
  cases l with
  | nil => exact nomatch hb
  | cons x rest =>
    have hx : x = b := hall x List.mem_cons_self
    cases rest with
    | nil => rw [hx]
    | cons y rest =>
      have hy : y = b := hall y (List.mem_cons_of_mem _ List.mem_cons_self)
      rw [List.nodup_cons] at hl
      exact absurd (hx.trans hy.symm ▸ List.mem_cons_self) hl.1

/-- A list without repetitions that starts with `a` and holds `b` and nothing else. -/
theorem eq_pair_of_nodup (hl : l.Nodup) (hab : a ≠ b) (hhead : l.head? = some a) (hb : b ∈ l)
    (hall : ∀ x ∈ l, x = b ∨ x = a) : l = [a, b] := by
  cases l with
  | nil => exact nomatch hb
  | cons x rest =>
    have hx : x = a := Option.some.inj hhead
    subst hx
    rw [List.nodup_cons] at hl
    have hmem : b ∈ rest := by
      rcases List.mem_cons.mp hb with rfl | h
      · exact absurd rfl hab
      · exact h
    have hrest : rest = [b] := by
      refine eq_singleton_of_nodup hl.2 hmem fun y hy => ?_
      rcases hall y (List.mem_cons_of_mem _ hy) with h | h
      · exact h
      · exact absurd (h ▸ hy) hl.1
    rw [hrest]

end Lists

variable {signers : SwapSigners} {wallet : Pubkey} {tx : VersionedTransaction}

/-- What the checks ask of the keys holds of the expected list. -/
theorem expected_checks (signers : SwapSigners) (wallet : Pubkey) :
    ¬ ((signers.expected wallet).head? ≠ some (signers.payer wallet) ∨
      wallet ∉ signers.expected wallet ∨
      ∃ key ∈ signers.expected wallet, key ≠ wallet ∧ key ≠ signers.payer wallet) := by
  unfold SwapSigners.expected SwapSigners.payer
  cases signers.sponsor with
  | none => simp
  | some sponsor => simp

/-- The position of the wallet in the expected list. -/
def SwapSigners.userSlot (signers : SwapSigners) : ℕ :=
  if signers.sponsor.isSome then 1 else 0

theorem idxOf_expected (hsponsor : ∀ sponsor ∈ signers.sponsor, sponsor.wallet ≠ wallet) :
    (signers.expected wallet).idxOf? wallet = some signers.userSlot := by
  unfold SwapSigners.expected SwapSigners.userSlot
  cases hs : signers.sponsor with
  | none => simp [List.idxOf?_cons]
  | some sponsor =>
    have hne : sponsor.wallet ≠ wallet := hsponsor sponsor (by rw [hs]; rfl)
    simp [List.idxOf?_cons, hne]

/-- **Exactly the expected signers pass**, and the user's index is the wallet's position. -/
theorem userSignerIndex_eq_ok (hdistinct : tx.message.staticAccountKeys.Nodup)
    (hsponsor : ∀ sponsor ∈ signers.sponsor, sponsor.wallet ≠ wallet) {i : ℕ} :
    signers.userSignerIndex wallet tx = .ok i ↔
      tx.message.requiredSigners = some (signers.expected wallet) ∧ i = signers.userSlot := by
  unfold VersionedMessage.requiredSigners
  constructor
  · intro h
    obtain ⟨_, hlength, h₁⟩ := bind_eq_ok.mp h
    obtain ⟨_, hkeys, h₂⟩ := bind_eq_ok.mp h₁
    rw [failIf_eq_ok, not_lt] at hlength
    rw [failIf_eq_ok, not_or, not_or, not_not, not_not, not_exists] at hkeys
    obtain ⟨hhead, hwallet, hothers⟩ := hkeys
    have hnodup := hdistinct.sublist (List.take_sublist
      tx.message.header.numRequiredSignatures.toNat _)
    have hexpected : tx.message.staticAccountKeys.take
        tx.message.header.numRequiredSignatures.toNat = signers.expected wallet := by
      unfold SwapSigners.expected
      unfold SwapSigners.payer at hhead hothers
      cases hs : signers.sponsor with
      | none =>
        refine eq_singleton_of_nodup hnodup hwallet fun key hkey => ?_
        by_contra hne
        rw [hs] at hothers
        exact hothers key ⟨hkey, hne, hne⟩
      | some sponsor =>
        rw [hs] at hhead hothers
        refine eq_pair_of_nodup hnodup (hsponsor sponsor (by rw [hs]; rfl)) hhead hwallet
          fun key hkey => ?_
        by_contra hne
        rw [not_or] at hne
        exact hothers key ⟨hkey, hne⟩
    rw [hexpected, idxOf_expected hsponsor] at h₂
    refine ⟨?_, (pure_eq_ok.mp h₂).symm⟩
    rw [if_pos hlength, hexpected]
  · rintro ⟨hrequired, rfl⟩
    split_ifs at hrequired with hlength
    have hexpected := Option.some.inj hrequired
    refine bind_eq_ok.mpr ⟨(), failIf_eq_ok.mpr (not_lt.mpr hlength), ?_⟩
    rw [hexpected]
    refine bind_eq_ok.mpr ⟨(), failIf_eq_ok.mpr (expected_checks signers wallet), ?_⟩
    rw [idxOf_expected hsponsor]
    rfl

/-! ## 2.  Filling the slots -/

theorem length_unsigned (m : VersionedMessage) :
    (unsigned m).signatures.length = m.header.numRequiredSignatures.toNat :=
  List.length_replicate

theorem runs_putSignature {index : ℕ} {signature : Signature} {tx tx' : VersionedTransaction}
    {tr : Trace Answer}
    (h : (SwapSigners.putSignature index signature).Runs tx tr (.ok ()) tx') :
    tr = [] ∧ tx' = { tx with signatures := tx.signatures.set index signature } := by
  unfold SwapSigners.putSignature at h
  rw [Proc.runs_read_bind] at h
  rcases Proc.runs_failIf_bind.mp h with ⟨-, -, hr, -⟩ | ⟨-, h₁⟩
  · exact nomatch hr
  · obtain ⟨htr, -, htx⟩ := Proc.runs_update.mp h₁
    exact ⟨htr, htx⟩

/-- A run of `sign` that succeeds: the user's key is asked first, then the sponsor's, each
once, and each answer is put into its own slot. -/
inductive SignRun (signers : SwapSigners) (wallet : Pubkey) (tx : VersionedTransaction) :
    Trace Answer → VersionedTransaction → Prop where
  | user (byUser : Signature) : signers.sponsor = none →
      SignRun signers wallet tx [⟨.userSign wallet tx, .ok byUser⟩]
        { tx with signatures := [byUser] }
  | sponsored (sponsor : GasSponsor) (byUser bySponsor : Signature)
      (shown : VersionedTransaction) :
      signers.sponsor = some sponsor → shown.message = tx.message →
      SignRun signers wallet tx
        [⟨.userSign wallet tx, .ok byUser⟩, ⟨.sponsorSign sponsor.wallet shown, .ok bySponsor⟩]
        { tx with signatures := [bySponsor, byUser] }

theorem length_expected (signers : SwapSigners) (wallet : Pubkey) :
    (signers.expected wallet).length = signers.userSlot + 1 := by
  unfold SwapSigners.expected SwapSigners.userSlot
  cases signers.sponsor with
  | none => rfl
  | some sponsor => rfl

theorem runs_sign {tr : Trace Answer} {tx' : VersionedTransaction}
    (hdistinct : tx.message.staticAccountKeys.Nodup)
    (hsponsor : ∀ sponsor ∈ signers.sponsor, sponsor.wallet ≠ wallet)
    (hslots : tx.signatures.length = tx.message.header.numRequiredSignatures.toNat)
    (h : (signers.sign wallet).Runs tx tr (.ok ()) tx') : SignRun signers wallet tx tr tx' := by
  unfold SwapSigners.sign at h
  rw [Proc.runs_read_bind] at h
  obtain ⟨index, hindex, h₁⟩ := Proc.runs_ofResult_bind_ok.mp h
  obtain ⟨hrequired, rfl⟩ := (userSignerIndex_eq_ok hdistinct hsponsor).mp hindex
  -- The slots of the transaction are those of the expected signers.
  have hlength : tx.signatures.length = signers.userSlot + 1 := by
    unfold VersionedMessage.requiredSigners at hrequired
    split_ifs at hrequired with hle
    rw [hslots, ← length_expected signers wallet, ← Option.some.inj hrequired,
      List.length_take, Nat.min_eq_left hle]
  rw [Proc.runs_read_bind] at h₁
  obtain ⟨response, tr₁, rfl, h₂⟩ := Proc.runs_ask_bind.mp h₁
  obtain ⟨byUser, hresponse, h₃⟩ := Proc.runs_ofResult_bind_ok.mp h₂
  rw [mapError_eq_ok] at hresponse
  subst hresponse
  obtain ⟨_, tx₁, tr₂, tr₃, rfl, hput, h₄⟩ := Proc.runs_bind_ok.mp h₃
  obtain ⟨rfl, rfl⟩ := runs_putSignature hput
  unfold SwapSigners.userSlot at hlength h₄
  cases hs : signers.sponsor with
  | none =>
    rw [hs] at hlength h₄
    obtain ⟨rfl, -, rfl⟩ := Proc.runs_pure.mp h₄
    obtain ⟨slot, hslot⟩ := List.length_eq_one_iff.mp hlength
    have hset : tx.signatures.set 0 byUser = [byUser] := by rw [hslot]; rfl
    show SignRun signers wallet tx _ { tx with signatures := tx.signatures.set 0 byUser }
    rw [hset]
    exact .user byUser hs
  | some sponsor =>
    rw [hs] at hlength h₄
    rw [Proc.runs_read_bind] at h₄
    obtain ⟨response, tr₄, rfl, h₅⟩ := Proc.runs_ask_bind.mp h₄
    obtain ⟨bySponsor, hresponse, h₆⟩ := Proc.runs_ofResult_bind_ok.mp h₅
    rw [mapError_eq_ok] at hresponse
    subst hresponse
    obtain ⟨rfl, rfl⟩ := runs_putSignature h₆
    obtain ⟨slot, slot', hslot⟩ := List.length_eq_two.mp hlength
    have hset : (tx.signatures.set 1 byUser).set 0 bySponsor = [bySponsor, byUser] := by
      rw [hslot]
      rfl
    show SignRun signers wallet tx _
      { tx with signatures := (tx.signatures.set 1 byUser).set 0 bySponsor }
    rw [hset]
    exact .sponsored sponsor byUser bySponsor _ hs rfl

/-- The answer of the signer of `key` in a run of `sign`: the user's key signs for the wallet,
the sponsor's for its own. -/
def ReturnedBy (tr : Trace Answer) (key : Pubkey) (signature : Signature) : Prop :=
  ∃ shown, ⟨.userSign key shown, .ok signature⟩ ∈ tr ∨ ⟨.sponsorSign key shown, .ok signature⟩ ∈ tr

/-- What signing leaves of a transaction: the message as it was, one entry per required signer,
each the answer of the signer of the key at its position, and no answer overwritten. -/
structure SlotsFilled (signers : SwapSigners) (wallet : Pubkey) (message : VersionedMessage)
    (tr : Trace Answer) (signed : VersionedTransaction) : Prop where
  message_eq : signed.message = message
  required : message.requiredSigners = some (signers.expected wallet)
  entries : List.Forall₂ (ReturnedBy tr) (signers.expected wallet) signed.signatures
  user_kept : ∀ key shown signature, ⟨.userSign key shown, .ok signature⟩ ∈ tr →
    key = wallet ∧ signed.signatures[signers.userSlot]? = some signature
  sponsor_kept : ∀ key shown signature, ⟨.sponsorSign key shown, .ok signature⟩ ∈ tr →
    signers.userSlot ≠ 0 ∧ signed.signatures[0]? = some signature

theorem SignRun.filled {tr : Trace Answer} {signed : VersionedTransaction}
    (hrequired : tx.message.requiredSigners = some (signers.expected wallet))
    (h : SignRun signers wallet tx tr signed) :
    SlotsFilled signers wallet tx.message tr signed := by
  cases h with
  | user byUser hs =>
    have hexpected : signers.expected wallet = [wallet] := by rw [SwapSigners.expected, hs]
    have hslot : signers.userSlot = 0 := by rw [SwapSigners.userSlot, hs]; rfl
    refine ⟨rfl, hrequired, ?_, ?_, ?_⟩
    · rw [hexpected]
      exact .cons ⟨tx, Or.inl List.mem_cons_self⟩ .nil
    · intro key shown signature hmem
      rcases List.mem_singleton.mp hmem with ⟨⟩
      rw [hslot]
      exact ⟨rfl, rfl⟩
    · intro key shown signature hmem
      exact nomatch List.mem_singleton.mp hmem
  | sponsored sponsor byUser bySponsor shown hs _ =>
    have hexpected : signers.expected wallet = [sponsor.wallet, wallet] := by
      rw [SwapSigners.expected, hs]
    have hslot : signers.userSlot = 1 := by rw [SwapSigners.userSlot, hs]; rfl
    refine ⟨rfl, hrequired, ?_, ?_, ?_⟩
    · rw [hexpected]
      exact .cons ⟨shown, Or.inr (List.mem_cons_of_mem _ List.mem_cons_self)⟩
        (.cons ⟨tx, Or.inl List.mem_cons_self⟩ .nil)
    · intro key shown' signature hmem
      rcases List.mem_cons.mp hmem with heq | hmem
      · cases heq
        rw [hslot]
        exact ⟨rfl, rfl⟩
      · exact nomatch List.mem_singleton.mp hmem
    · intro key shown' signature hmem
      rcases List.mem_cons.mp hmem with heq | hmem
      · exact nomatch heq
      · rcases List.mem_singleton.mp hmem with ⟨⟩
        rw [hslot]
        exact ⟨Nat.one_ne_zero, rfl⟩

/-- **Signature slots are exactly filled**: on distinct keys the checks pass exactly for the
expected signers, and a run of `sign` that succeeds fills each of their slots with its own
signer's answer. -/
theorem signature_slots_filled {message : VersionedMessage}
    (hdistinct : message.staticAccountKeys.Nodup)
    (hsponsor : ∀ sponsor ∈ signers.sponsor, sponsor.wallet ≠ wallet) :
    (∀ tx : VersionedTransaction, tx.message = message →
      ((∃ i, signers.userSignerIndex wallet tx = .ok i) ↔
        message.requiredSigners = some (signers.expected wallet))) ∧
      ∀ tr signed, (signers.sign wallet).Runs (unsigned message) tr (.ok ()) signed →
        SlotsFilled signers wallet message tr signed := by
  constructor
  · rintro tx rfl
    constructor
    · rintro ⟨i, hi⟩
      exact ((userSignerIndex_eq_ok hdistinct hsponsor).mp hi).1
    · intro hrequired
      exact ⟨_, (userSignerIndex_eq_ok hdistinct hsponsor).mpr ⟨hrequired, rfl⟩⟩
  · intro tr signed h
    have hindex := h
    unfold SwapSigners.sign at hindex
    rw [Proc.runs_read_bind] at hindex
    obtain ⟨i, hi, -⟩ := Proc.runs_ofResult_bind_ok.mp hindex
    have hkeys : (unsigned message).message.staticAccountKeys.Nodup := hdistinct
    obtain ⟨hrequired, -⟩ := (userSignerIndex_eq_ok hkeys hsponsor).mp hi
    exact (runs_sign hdistinct hsponsor (length_unsigned message) h).filled hrequired

/-- A message that the sponsor and the user have to sign. -/
def sampleMessage : VersionedMessage :=
  .v0
    { header := ⟨2, 0, 1⟩
      accountKeys := [sampleSponsorWallet, sampleUser, usdcMint]
      recentBlockhash := .zero 32
      instructions := []
      addressTableLookups := [] }

theorem signature_slots_filled_sample : ∃ tr signed,
    (SwapSigners.sign ⟨some sampleSponsor⟩ sampleUser).Runs (unsigned sampleMessage) tr (.ok ())
        signed ∧
      SlotsFilled ⟨some sampleSponsor⟩ sampleUser sampleMessage tr signed := by
  obtain ⟨tr, _, signed, hrun⟩ := Proc.runs_ok_of_exec sampleBackend (fun _ => 1)
    (SwapSigners.sign ⟨some sampleSponsor⟩ sampleUser) (unsigned sampleMessage)
    (by decide +kernel)
  refine ⟨tr, signed, hrun, (signature_slots_filled (by decide +kernel) ?_).2 tr signed hrun⟩
  intro sponsor hsponsor
  cases hsponsor
  show sampleSponsorWallet ≠ sampleUser
  decide

end Solana
end TradingAggregators
