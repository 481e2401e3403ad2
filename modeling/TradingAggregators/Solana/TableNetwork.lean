import Mathlib.Data.List.Basic
import Mathlib.Logic.Relation
import TradingAggregators.Interaction.Crash
import TradingAggregators.Solana.TableCreator

/-!
# The network that fills a table

A transaction that was sent may land long after the client gave it up: an error of
`send_and_confirm_transaction` says nothing, and neither does a program that was stopped while it
waited.  A node that lags answers with what was true some time ago.

## 1.  The ledger

`Ledger`: the tables of one authority, which only grow (`Ledger.Precedes`).

## 2.  The network

`Network`: the ledger, the ledgers before, and what was sent and may still land.  `Moves` is
what may happen at any time: time passes, or something pending lands or never will.

## 3.  Answers

`Responds` is what a node may answer.  `Prompt` is a node that is up to date.

## 4.  What lasts

`Tended`: whatever lands and whenever, tables hold their first addresses and wanted ones behind.
-/

namespace TradingAggregators
namespace Solana
namespace LookupTableCreator

open Interaction Rust Wire

/-! ## 1.  The ledger -/

/-- The address lookup tables of one authority. -/
structure Ledger where
  slot : UInt64
  tables : Pubkey → Option LookupTableState

/-- Time passes; the tables of the authority change by its own instructions only. -/
structure Ledger.Passes (l l' : Ledger) : Prop where
  slot : l.slot ≤ l'.slot
  tables : l'.tables = l.tables

/-- The tables of the later ledger begin with those of the earlier one. -/
def Ledger.Precedes (l l' : Ledger) : Prop :=
  ∀ key t, l.tables key = some t →
    ∃ t', l'.tables key = some t' ∧ t.addresses <+: t'.addresses

/-- The ledger with another state of one table. -/
def Ledger.put (l : Ledger) (table : Pubkey) (t : LookupTableState) : Ledger where
  slot := l.slot
  tables := Function.update l.tables table (some t)

@[simp] theorem Ledger.put_self (l : Ledger) (table : Pubkey) (t : LookupTableState) :
    (l.put table t).tables table = some t :=
  Function.update_self ..

theorem Ledger.put_of_ne (l : Ledger) {table key : Pubkey} (t : LookupTableState)
    (h : key ≠ table) : (l.put table t).tables key = l.tables key :=
  Function.update_of_ne h ..

/-- What the program does with an instruction that the authority signed. -/
inductive Executes : TableInstruction → Ledger → Ledger → Prop
  | create {l : Ledger} {table authority payer : Pubkey} {recentSlot : UInt64} :
      l.tables table = none →
      Executes (.createLookupTable table authority payer recentSlot) l
        (l.put table ⟨18446744073709551615, 0, []⟩)
  | extend {l : Ledger} {table authority : Pubkey} {payer : Option Pubkey} {added : List Pubkey}
      {t : LookupTableState} : l.tables table = some t → t.deactivationSlot = 18446744073709551615 →
      added ≠ [] → t.addresses.length + added.length ≤ maxAddresses →
      Executes (.extendLookupTable table authority payer added) l
        (l.put table { t with addresses := t.addresses ++ added, lastExtendedSlot := l.slot })

theorem Ledger.Passes.refl (l : Ledger) : l.Passes l :=
  ⟨UInt64.le_refl _, rfl⟩

theorem Ledger.Passes.trans {l l' l'' : Ledger} (h : l.Passes l') (h' : l'.Passes l'') :
    l.Passes l'' :=
  ⟨UInt64.le_trans h.slot h'.slot, h'.tables.trans h.tables⟩

theorem Ledger.Precedes.refl (l : Ledger) : l.Precedes l :=
  fun _ t h => ⟨t, h, List.prefix_rfl⟩

theorem Ledger.Precedes.trans {l l' l'' : Ledger} (h : l.Precedes l') (h' : l'.Precedes l'') :
    l.Precedes l'' := by
  intro key t hstored
  obtain ⟨t', hstored', hprefix⟩ := h key t hstored
  obtain ⟨t'', hstored'', hprefix'⟩ := h' key t' hstored'
  exact ⟨t'', hstored'', hprefix.trans hprefix'⟩

theorem Ledger.Passes.precedes {l l' : Ledger} (h : l.Passes l') : l.Precedes l' := by
  intro key t hstored
  exact ⟨t, by rw [h.tables, hstored], List.prefix_rfl⟩

/-- A table is created once and then only extended. -/
theorem Executes.precedes {i : TableInstruction} {l l' : Ledger} (h : Executes i l l') :
    l.Precedes l' := by
  intro key t hstored
  cases h with
  | @create _ table _ _ _ hnone =>
    by_cases hkey : key = table
    · subst hkey
      rw [hnone] at hstored
      cases hstored
    · exact ⟨t, by rw [l.put_of_ne _ hkey, hstored], List.prefix_rfl⟩
  | @extend _ table _ _ added t₀ hstored₀ =>
    by_cases hkey : key = table
    · subst hkey
      rw [hstored] at hstored₀
      obtain rfl := Option.some.inj hstored₀
      exact ⟨_, l.put_self key _, List.prefix_append t.addresses added⟩
    · exact ⟨t, by rw [l.put_of_ne _ hkey, hstored], List.prefix_rfl⟩

/-! ## 2.  The network -/

/-- The ledger, what a lagging node may still show, and what was sent. -/
structure Network where
  ledger : Ledger
  past : List Ledger
  /-- Neither confirmed nor known to be lost. -/
  pending : List TableInstruction
  past_precedes : ∀ l ∈ past, l.Precedes ledger

namespace Network

def start (l : Ledger) : Network where
  ledger := l
  past := []
  pending := []
  past_precedes _ h := by cases h

/-- The network with the next ledger. -/
def advance (n : Network) (l : Ledger) (h : n.ledger.Precedes l) : Network where
  ledger := l
  past := n.ledger :: n.past
  pending := n.pending
  past_precedes := by
    intro l' hl'
    rcases List.mem_cons.mp hl' with rfl | hl'
    · exact h
    · exact (n.past_precedes l' hl').trans h

def send (n : Network) (i : TableInstruction) : Network :=
  { n with pending := n.pending ++ [i] }

/-- What may happen while nobody looks. -/
inductive Moves : Network → Network → Prop
  | pass {n : Network} {l : Ledger} (h : n.ledger.Passes l) : Moves n (n.advance l h.precedes)
  | land {n : Network} {l : Ledger} {i : TableInstruction} {front back : List TableInstruction} :
      n.pending = front ++ i :: back → (h : Executes i n.ledger l) →
      Moves n { n.advance l h.precedes with pending := front ++ back }
  | lose {n : Network} {i : TableInstruction} {front back : List TableInstruction} :
      n.pending = front ++ i :: back → Moves n { n with pending := front ++ back }

def Elapses : Network → Network → Prop :=
  Relation.ReflTransGen Moves

variable {n n' : Network}

theorem Elapses.trans {n'' : Network} (h : n.Elapses n') (h' : n'.Elapses n'') :
    n.Elapses n'' :=
  Relation.ReflTransGen.trans h h'

theorem Moves.precedes (h : n.Moves n') : n.ledger.Precedes n'.ledger := by
  cases h with
  | pass hpasses => exact hpasses.precedes
  | land _ hexecutes => exact hexecutes.precedes
  | lose _ => exact .refl _

theorem Elapses.precedes (h : n.Elapses n') : n.ledger.Precedes n'.ledger := by
  induction h with
  | refl => exact .refl _
  | tail _ hmoves ih => exact ih.trans hmoves.precedes

/-- With nothing pending, time passes. -/
theorem Elapses.passes (h : n.Elapses n') (hpending : n.pending = []) :
    n'.pending = [] ∧ n.ledger.Passes n'.ledger := by
  induction h with
  | refl => exact ⟨hpending, .refl _⟩
  | tail _ hmoves ih =>
    obtain ⟨hnone, hpasses⟩ := ih
    cases hmoves with
    | pass hmore => exact ⟨hnone, hpasses.trans hmore⟩
    | land hsome _ => simp [hnone] at hsome
    | lose hsome => simp [hnone] at hsome

theorem eq_of_singleton {i j : TableInstruction} {front back : List TableInstruction}
    (h : [i] = front ++ j :: back) : front = [] ∧ back = [] ∧ i = j := by
  cases front with
  | nil => simpa [and_comm] using h
  | cons k front => simp at h

/-- With one instruction pending, it lands at some time or it does not. -/
theorem Elapses.passes_or_executes {i : TableInstruction} (h : n.Elapses n')
    (hpending : n.pending = [i]) :
    n.ledger.Passes n'.ledger ∨
      ∃ m l, n.ledger.Passes m ∧ Executes i m l ∧ l.Passes n'.ledger := by
  have hcases : (n'.pending = [i] ∨ n'.pending = []) ∧ n.ledger.Passes n'.ledger ∨
      n'.pending = [] ∧
        ∃ m l, n.ledger.Passes m ∧ Executes i m l ∧ l.Passes n'.ledger := by
    induction h with
    | refl => exact Or.inl ⟨Or.inl hpending, .refl _⟩
    | tail _ hmoves ih =>
      cases hmoves with
      | pass hmore =>
        rcases ih with ⟨hleft, hpasses⟩ | ⟨hnone, m, l, hm, hexecutes, hl⟩
        · exact Or.inl ⟨hleft, hpasses.trans hmore⟩
        · exact Or.inr ⟨hnone, m, l, hm, hexecutes, hl.trans hmore⟩
      | land hsome hexecutes =>
        rcases ih with ⟨hleft | hleft, hpasses⟩ | ⟨hnone, -⟩
        · rw [hleft] at hsome
          obtain ⟨rfl, rfl, rfl⟩ := eq_of_singleton hsome
          exact Or.inr ⟨rfl, _, _, hpasses, hexecutes, .refl _⟩
        · simp [hleft] at hsome
        · simp [hnone] at hsome
      | lose hsome =>
        rcases ih with ⟨hleft | hleft, hpasses⟩ | ⟨hnone, -⟩
        · rw [hleft] at hsome
          obtain ⟨rfl, rfl, rfl⟩ := eq_of_singleton hsome
          exact Or.inl ⟨Or.inr rfl, hpasses⟩
        · simp [hleft] at hsome
        · simp [hnone] at hsome
  exact hcases.imp And.right And.right

end Network

/-! ## 3.  Answers -/

section Node

variable [TableSdk] {authority : Pubkey} {n n' : Network} {e : Event TableAnswer}

/-- An account as the ledger has it. -/
def Shows (authority : Pubkey) (l : Ledger) (key : Pubkey) (account : Account) : Prop :=
  match l.tables key with
  | some t => account.owner = lookupTableProgram ∧
      TableSdk.deserializeTable account.data = .ok ⟨t, some authority⟩
  | none => ∀ t, account.owner = lookupTableProgram →
      TableSdk.deserializeTable account.data = .ok t → t.authority ≠ some authority

theorem Shows.of_stored {l : Ledger} {key : Pubkey} {account : Account}
    {t : LookupTableState} (h : Shows authority l key account) (hstored : l.tables key = some t) :
    account.owner = lookupTableProgram ∧
      TableSdk.deserializeTable account.data = .ok ⟨t, some authority⟩ := by
  rwa [Shows, hstored] at h

/-- An account as some ledger has it, now or before.  The address of a table is derived from its
authority and holds nothing before it is created. -/
def Network.Remembers (n : Network) (authority key : Pubkey) (account : Account) : Prop :=
  ∃ l ∈ n.ledger :: n.past, Shows authority l key account ∧
    (l.tables key = none → n.ledger.tables key = none)

/-- **What a node may answer.**  A read shows the ledger as it is or was; an instruction that is
confirmed was executed, once; one whose confirmation failed is pending, and so is one whose
sender was stopped. -/
def Responds (authority : Pubkey) : Protocol TableAnswer Network
  | n, ⟨.getAccount key, .ok account⟩, n' => n.Elapses n' ∧ n'.Remembers authority key account
  | n, ⟨.getSlot, .ok slot⟩, n' => n.Elapses n' ∧ slot ≤ n'.ledger.slot
  | n, ⟨.sendAndConfirmTransaction i _ _, .ok _⟩, n' =>
      ∃ m l, ∃ h : Executes i m.ledger l, n.Elapses m ∧ (m.advance l h.precedes).Elapses n'
  | n, ⟨.sendAndConfirmTransaction i _ _, .error _⟩, n' => (n.send i).Elapses n'
  | n, _, n' => n.Elapses n'

/-- An account that is read shows the ledger as it is. -/
def Current (authority : Pubkey) : Event TableAnswer → Ledger → Prop
  | ⟨.getAccount key, .ok account⟩, l => Shows authority l key account
  | _, _ => True

/-- **A node that does not lag.** -/
def Prompt (authority : Pubkey) : Protocol TableAnswer Network :=
  fun n e n' => Responds authority n e n' ∧ Current authority e n'.ledger

/-- A question that sends nothing. -/
def TableQuery.Quiet : TableQuery → Prop
  | .sendAndConfirmTransaction _ _ _ => False
  | _ => True

theorem Responds.elapses (h : Responds authority n e n') (hquiet : TableQuery.Quiet e.query) :
    n.Elapses n' := by
  obtain ⟨q, answer⟩ := e
  cases q with
  | getAccount key =>
    cases answer with
    | error e => exact h
    | ok account => exact h.1
  | getSlot =>
    cases answer with
    | error e => exact h
    | ok slot => exact h.1
  | sendAndConfirmTransaction i payer blockhash => exact hquiet.elim
  | getBalance key => exact h
  | getMinimumBalanceForRentExemption size => exact h
  | getLatestBlockhash => exact h
  | getFeeForMessage payer blockhash => exact h
  | sleep milliseconds => exact h

/-- Tables only grow, whatever is asked. -/
theorem Responds.precedes (h : Responds authority n e n') : n.ledger.Precedes n'.ledger := by
  by_cases hquiet : TableQuery.Quiet e.query
  · exact (h.elapses hquiet).precedes
  · obtain ⟨q, answer⟩ := e
    cases q with
    | sendAndConfirmTransaction i payer blockhash =>
      cases answer with
      | error e =>
        have hsent : (n.send i).Elapses n' := h
        exact hsent.precedes
      | ok signature =>
        obtain ⟨m, l, hexecutes, hbefore, hafter⟩ := h
        exact hbefore.precedes.trans (hexecutes.precedes.trans hafter.precedes)
    | _ => exact absurd trivial hquiet

/-! ## 4.  What lasts -/

/-- A table before and after: its first addresses are kept, what is added was wanted, and no more
is added than fits. -/
inductive Grown (desired : List Pubkey) :
    Option LookupTableState → Option LookupTableState → Prop
  | absent : Grown desired none none
  | created {t : LookupTableState} : t.deactivationSlot = 18446744073709551615 →
      (∀ key ∈ t.addresses, key ∈ desired) → t.addresses.length ≤ maxAddresses →
      Grown desired none (some t)
  | extended {t t' : LookupTableState} {added : List Pubkey} :
      t'.deactivationSlot = t.deactivationSlot → t'.addresses = t.addresses ++ added →
      (∀ key ∈ added, key ∈ desired) → (added = [] ∨ t'.addresses.length ≤ maxAddresses) →
      Grown desired (some t) (some t')

/-- An instruction on one of the named tables, with wanted addresses. -/
inductive Wanted (desired : List Pubkey) (named : Pubkey → Prop) : TableInstruction → Prop
  | create {table authority payer : Pubkey} {recentSlot : UInt64} : named table →
      Wanted desired named (.createLookupTable table authority payer recentSlot)
  | extend {table authority : Pubkey} {payer : Option Pubkey} {added : List Pubkey} :
      named table → (∀ key ∈ added, key ∈ desired) →
      Wanted desired named (.extendLookupTable table authority payer added)

/-- The tables have grown, and only the named ones changed. -/
structure Kept (desired : List Pubkey) (named : Pubkey → Prop) (l₀ l : Ledger) : Prop where
  grown : ∀ key, Grown desired (l₀.tables key) (l.tables key)
  others : ∀ key, ¬ named key → l.tables key = l₀.tables key

/-- The tables have grown, and what may still land lets them grow. -/
structure Tended (desired : List Pubkey) (named : Pubkey → Prop) (l₀ : Ledger) (n : Network) :
    Prop where
  kept : Kept desired named l₀ n.ledger
  pending : ∀ i ∈ n.pending, Wanted desired named i

variable {desired : List Pubkey} {named : Pubkey → Prop} {l₀ l l' : Ledger}

omit [TableSdk] in
theorem Grown.refl (desired : List Pubkey) (t : Option LookupTableState) : Grown desired t t := by
  cases t with
  | none => exact .absent
  | some t =>
    exact @Grown.extended desired t t [] rfl (List.append_nil _).symm (by simp) (Or.inl rfl)

omit [TableSdk] in
/-- One extension more. -/
theorem Grown.extend {t₀ : Option LookupTableState} {t t' : LookupTableState}
    {added : List Pubkey} (h : Grown desired t₀ (some t))
    (hdeactivation : t'.deactivationSlot = t.deactivationSlot)
    (hkeys : t'.addresses = t.addresses ++ added) (hwanted : ∀ key ∈ added, key ∈ desired)
    (hroom : t'.addresses.length ≤ maxAddresses) : Grown desired t₀ (some t') := by
  cases h with
  | created hactive hall _ =>
    refine .created (hdeactivation.trans hactive) (fun key hkey => ?_) hroom
    rw [hkeys] at hkey
    exact (List.mem_append.mp hkey).elim (hall key) (hwanted key)
  | @extended t₀ _ first hsame hfirst hall _ =>
    have hboth : t'.addresses = t₀.addresses ++ (first ++ added) := by
      rw [hkeys, hfirst, List.append_assoc]
    refine .extended (hdeactivation.trans hsame) hboth (fun key hkey => ?_) (Or.inr hroom)
    exact (List.mem_append.mp hkey).elim (hall key) (hwanted key)

omit [TableSdk] in
theorem Kept.refl (desired : List Pubkey) (named : Pubkey → Prop) (l : Ledger) :
    Kept desired named l l :=
  ⟨fun _ => .refl desired _, fun _ _ => rfl⟩

omit [TableSdk] in
theorem Kept.passes (h : Kept desired named l₀ l) (hpasses : l.Passes l') :
    Kept desired named l₀ l' := by
  refine ⟨fun key => ?_, fun key hkey => ?_⟩
  · rw [hpasses.tables]
    exact h.grown key
  · rw [hpasses.tables]
    exact h.others key hkey

omit [TableSdk] in
/-- What one table becomes is for that table only to bear. -/
theorem Kept.put {table : Pubkey} {t : LookupTableState} (h : Kept desired named l₀ l)
    (hnamed : named table) (ht : Grown desired (l₀.tables table) (some t)) :
    Kept desired named l₀ (l.put table t) := by
  refine ⟨fun key => ?_, fun key hkey => ?_⟩
  · by_cases hsame : key = table
    · rw [hsame, l.put_self]
      exact ht
    · rw [l.put_of_ne t hsame]
      exact h.grown key
  · have hne : key ≠ table := by
      rintro rfl
      exact hkey hnamed
    rw [l.put_of_ne t hne]
    exact h.others key hkey

omit [TableSdk] in
/-- **A wanted instruction lets the tables grow**, whenever it lands. -/
theorem Kept.executes {i : TableInstruction} (h : Kept desired named l₀ l)
    (hwanted : Wanted desired named i) (hexecutes : Executes i l l') :
    Kept desired named l₀ l' := by
  cases hexecutes with
  | @create _ table _ _ _ hnone =>
    cases hwanted with
    | create hnamed =>
      refine h.put hnamed ?_
      have hgrown := h.grown table
      rw [hnone] at hgrown
      cases hbefore : l₀.tables table with
      | none => exact .created rfl (by simp) (Nat.zero_le _)
      | some t =>
        rw [hbefore] at hgrown
        cases hgrown
  | @extend _ table _ _ added t hstored _ _ hroom =>
    cases hwanted with
    | extend hnamed hall =>
      have hgrown := h.grown table
      rw [hstored] at hgrown
      refine h.put hnamed (hgrown.extend rfl rfl hall ?_)
      simpa using hroom

omit [TableSdk] in
theorem Tended.moves (h : Tended desired named l₀ n) (hmoves : n.Moves n') :
    Tended desired named l₀ n' := by
  cases hmoves with
  | pass hpasses => exact ⟨h.kept.passes hpasses, h.pending⟩
  | land hpending hexecutes =>
    refine ⟨h.kept.executes (h.pending _ ?_) hexecutes, fun i hi => h.pending i ?_⟩
    · rw [hpending]
      exact List.mem_append_right _ List.mem_cons_self
    · rw [hpending]
      exact (List.Sublist.append_left (List.sublist_cons_self _ _) _).subset hi
  | lose hpending =>
    refine ⟨h.kept, fun i hi => h.pending i ?_⟩
    rw [hpending]
    exact (List.Sublist.append_left (List.sublist_cons_self _ _) _).subset hi

omit [TableSdk] in
theorem Tended.elapses (h : Tended desired named l₀ n) (helapses : n.Elapses n') :
    Tended desired named l₀ n' := by
  induction helapses with
  | refl => exact h
  | tail _ hmoves ih => exact ih.moves hmoves

omit [TableSdk] in
theorem Tended.send {i : TableInstruction} (h : Tended desired named l₀ n)
    (hwanted : Wanted desired named i) : Tended desired named l₀ (n.send i) := by
  refine ⟨h.kept, fun j hj => ?_⟩
  rcases List.mem_append.mp hj with hj | hj
  · exact h.pending j hj
  · rwa [List.mem_singleton.mp hj]

/-- A question that sends wanted instructions at most. -/
def TableQuery.Tends (desired : List Pubkey) (named : Pubkey → Prop) : TableQuery → Prop
  | .sendAndConfirmTransaction i _ _ => Wanted desired named i
  | _ => True

/-- **Whatever a node answers to such questions, the tables are tended.** -/
theorem Tended.responds (h : Tended desired named l₀ n)
    (hquery : TableQuery.Tends desired named e.query) (hresponds : Responds authority n e n') :
    Tended desired named l₀ n' := by
  by_cases hquiet : TableQuery.Quiet e.query
  · exact h.elapses (hresponds.elapses hquiet)
  · obtain ⟨q, answer⟩ := e
    cases q with
    | sendAndConfirmTransaction i payer blockhash =>
      have hwanted : Wanted desired named i := hquery
      cases answer with
      | error e => exact (h.send hwanted).elapses hresponds
      | ok signature =>
        obtain ⟨m, l, hexecutes, hbefore, hafter⟩ := hresponds
        have hm := h.elapses hbefore
        have hl : Tended desired named l₀ (m.advance l hexecutes.precedes) :=
          ⟨hm.kept.executes hwanted hexecutes, hm.pending⟩
        exact hl.elapses hafter
    | _ => exact absurd trivial hquiet

end Node
end LookupTableCreator
end Solana
end TradingAggregators
