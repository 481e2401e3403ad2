import TradingAggregators.Interaction.Crash
import TradingAggregators.Solana.ReferenceSdk
import TradingAggregators.Solana.TableNetwork

/-!
# Filling a table, with interruptions

A table is filled by several transactions, each of which may be confirmed, rejected, or reported
as failed and land later; and the program may be stopped at any moment and started again.

## 1.  What a table lacks

`missing_append`: behind a prefix of what it lacked, a table lacks the rest.

## 2.  Sessions on any network

A session sends wanted instructions only (`asks_populate`), and one that completes has seen every
wanted address in its table (`withstands_populate_holds`).

## 3.  Sessions that start with nothing pending

On a node that does not lag, such a session withstands every interruption with `Growing`: whatever
still lands, the table holds its first addresses and a prefix of what it lacked.

## 4.  Any number of sessions

`population_resumable`: nothing unwanted is ever stored and a completed session leaves nothing out;
and if what was sent has landed or was lost before the next session starts, the session that
completes leaves the table that an undisturbed one would have left.  Without that a table may
hold an address twice.
-/

namespace TradingAggregators
namespace Solana
namespace LookupTableCreator

open Interaction Rust Wire

/-! ## 1.  What a table lacks -/

/-- Behind a prefix of what it lacked, a table lacks the rest. -/
theorem missing_append {base desired added rest : List Pubkey} (hdesired : desired.Nodup)
    (h : missing base desired = added ++ rest) : missing (base ++ added) desired = rest := by
  have hfilter : missing (base ++ added) desired =
      (missing base desired).filter fun key => key ∉ added := by
    rw [missing, missing, List.filter_filter]
    refine List.filter_congr fun key _ => ?_
    simp [Bool.and_comm]
  have hnodup : (added ++ rest).Nodup := h ▸ hdesired.filter _
  obtain ⟨-, -, hdisjoint⟩ := List.nodup_append.mp hnodup
  rw [hfilter, h, List.filter_append]
  have hnone : (added.filter fun key => key ∉ added) = [] := by
    simp
  have hall : (rest.filter fun key => key ∉ added) = rest := by
    refine List.filter_eq_self.mpr fun key hkey => ?_
    simpa using fun hadded => hdisjoint key hadded key hkey rfl
  rw [hnone, hall, List.nil_append]

/-- The chunks read the list. -/
theorem flatten_chunks {α : Type} (size : ℕ) (xs : List α) : (chunks size xs).flatten = xs := by
  have hsplit : ∀ i, (xs.toChunksAux (size - 1) i).1 ++ (xs.toChunksAux (size - 1) i).2.flatten =
      xs := by
    induction xs with
    | nil => exact fun i => rfl
    | cons x xs ih =>
      intro i
      cases i with
      | zero => simpa [List.toChunksAux] using ih (size - 1)
      | succ i => simpa [List.toChunksAux] using ih i
  have hnone : (xs.toChunksAux (size - 1) 0).1 = [] := by
    cases xs <;> rfl
  have hzero := hsplit 0
  rwa [hnone, List.nil_append] at hzero

/-- What a completed table holds was all wanted or there before, and once. -/
theorem nodup_filled {base desired : List Pubkey} (hbase : base.Nodup) (hdesired : desired.Nodup) :
    (base ++ missing base desired).Nodup := by
  refine List.nodup_append.mpr ⟨hbase, hdesired.filter _, fun key hkey other hother heq => ?_⟩
  rw [missing, List.mem_filter] at hother
  rw [heq] at hkey
  simp [hkey] at hother

/-! ## 2.  Sessions on any network -/

/-- A table with these addresses among others. -/
def Holds (table : Pubkey) (keys : List Pubkey) (l : Ledger) : Prop :=
  ∃ t, l.tables table = some t ∧ ∀ key ∈ keys, key ∈ t.addresses

theorem Holds.precedes {table : Pubkey} {keys : List Pubkey} {l l' : Ledger}
    (h : Holds table keys l) (hprecedes : l.Precedes l') : Holds table keys l' := by
  obtain ⟨t, hstored, hall⟩ := h
  obtain ⟨t', hstored', hprefix⟩ := hprecedes table t hstored
  exact ⟨t', hstored', fun key hkey => hprefix.subset (hall key hkey)⟩

theorem mem_of_mem_missing {stored desired : List Pubkey} {key : Pubkey}
    (h : key ∈ missing stored desired) : key ∈ desired :=
  (List.mem_filter.mp h).1

section Node

variable [TableSdk] {authority table : Pubkey} {desired : List Pubkey} {named : Pubkey → Prop}
  {n n' : Network}

/-- The tables that a session may name: the given one, or one of the addresses derived from its
authority. -/
def Addressed (authority : Pubkey) : Option Pubkey → Pubkey → Prop
  | some table, key => key = table
  | none, key => ∃ slot, key = tableAddress authority slot

/-! ### What it asks -/

omit [TableSdk] in
theorem asks_send {i : TableInstruction} (hwanted : Wanted desired named i) :
    (send authority i).Asks (TableQuery.Tends desired named) := by
  refine (Proc.asks_ask trivial).bind fun _ => (Proc.asks_ofResult _).bind fun _ => ?_
  refine Proc.Asks.bind (Proc.asks_ask ?_) fun _ => (Proc.asks_ofResult _).bind fun _ =>
    Proc.asks_pure _
  exact hwanted

omit [TableSdk] in
theorem asks_extendAll {chunks : List (List Pubkey)} (hnamed : named table)
    (hchunks : ∀ key ∈ chunks.flatten, key ∈ desired) :
    (extendAll authority table chunks).Asks (TableQuery.Tends desired named) := by
  induction chunks with
  | nil => exact Proc.asks_pure _
  | cons chunk rest ih =>
    rw [List.flatten_cons] at hchunks
    refine Proc.Asks.bind (Proc.Asks.mapErr (asks_send (.extend hnamed fun key hkey => ?_)) _)
      fun _ => ih fun key hkey => hchunks key (List.mem_append_right _ hkey)
    exact hchunks key (List.mem_append_left _ hkey)

theorem asks_readOwnedTable : (readOwnedTable authority table).Asks TableQuery.Quiet := by
  refine (Proc.asks_ask trivial).bind fun _ => (Proc.asks_ofResult _).bind fun _ => ?_
  refine (Proc.asks_failIf _ _).bind fun _ => (Proc.asks_ofResult _).bind fun _ => ?_
  exact (Proc.asks_failIf _ _).bind fun _ => (Proc.asks_failIf _ _).bind fun _ => Proc.asks_pure _

theorem asks_recentCreationSlot : recentCreationSlot.Asks TableQuery.Quiet :=
  (Proc.asks_ask trivial).bind fun _ => (Proc.asks_ofResult _).bind fun _ =>
    (Proc.asks_ofResult _).bind fun _ => Proc.asks_ofResult _

theorem asks_awaitActive (desired : List Pubkey) (rounds : ℕ) :
    (awaitActive table desired rounds).Asks TableQuery.Quiet := by
  induction rounds with
  | zero => exact Proc.asks_throw _
  | succ rounds ih =>
    have hsleep : (Proc.ask (TableQuery.sleep 500) >>= fun _ =>
        awaitActive table desired rounds).Asks TableQuery.Quiet :=
      (Proc.asks_ask trivial).bind fun _ => ih
    refine (Proc.asks_ask trivial).bind fun _ => (Proc.asks_ofResult _).bind fun _ => ?_
    refine (Proc.asks_ofResult _).bind fun state => ?_
    by_cases hall : ∀ key ∈ desired, key ∈ state.addresses
    · rw [if_pos hall]
      refine (Proc.asks_ask trivial).bind fun _ => (Proc.asks_ofResult _).bind fun slot => ?_
      by_cases hwarm : slot > state.lastExtendedSlot
      · rw [if_pos hwarm]
        exact Proc.asks_pure _
      · rw [if_neg hwarm]
        exact hsleep
    · rw [if_neg hall]
      exact hsleep

section Sessions

variable [Profile]

omit [TableSdk] in
theorem asks_checkFunding (authority : Pubkey) (rent : UInt64) (count : ℕ) :
    (checkFunding authority rent count).Asks TableQuery.Quiet := by
  refine (Proc.asks_ask trivial).bind fun _ => (Proc.asks_ofResult _).bind fun _ => ?_
  refine (Proc.asks_ask trivial).bind fun _ => (Proc.asks_ofResult _).bind fun _ => ?_
  refine (Proc.asks_ofResult _).bind fun _ => (Proc.asks_ofResult _).bind fun _ => ?_
  exact (Proc.asks_ask trivial).bind fun _ => (Proc.asks_ofResult _).bind fun _ =>
    Proc.asks_failIf _ _

omit [TableSdk] [Profile] in
/-- What sends nothing sends nothing unwanted. -/
theorem TableQuery.Quiet.tends {q : TableQuery} (h : TableQuery.Quiet q) :
    TableQuery.Tends desired named q := by
  cases q with
  | sendAndConfirmTransaction i payer blockhash => exact h.elim
  | _ => trivial

omit [Profile] in
/-- What both kinds of sessions end with. -/
theorem asks_fill {chunks : List (List Pubkey)} (hnamed : named table)
    (hchunks : ∀ key ∈ chunks.flatten, key ∈ desired) :
    (do
      extendAll authority table chunks
      waitUntilActive table desired
      pure table : TableTask Pubkey).Asks (TableQuery.Tends desired named) := by
  refine (asks_extendAll hnamed hchunks).bind fun _ => ?_
  refine ((asks_awaitActive _ _).mono fun _ => TableQuery.Quiet.tends).bind fun _ => ?_
  exact Proc.asks_pure _

/-- **A session sends wanted instructions only.** -/
theorem asks_populate (authority : Pubkey) (existing : Option Pubkey) (desired : List Pubkey)
    (hnamed : ∀ key, Addressed authority existing key → named key) :
    (populate authority existing desired).Asks (TableQuery.Tends desired named) := by
  have hquiet {α : Type} {x : TableTask α} (hx : x.Asks TableQuery.Quiet) :
      x.Asks (TableQuery.Tends desired named) := hx.mono fun _ => TableQuery.Quiet.tends
  have hchunks : ∀ stored, ∀ key ∈ (chunks extendChunkSize (missing stored desired)).flatten,
      key ∈ desired := by
    intro stored key hkey
    rw [flatten_chunks] at hkey
    exact mem_of_mem_missing hkey
  unfold populate
  cases existing with
  | some table =>
    refine (hquiet asks_readOwnedTable).bind fun stored => (Proc.asks_failIf _ _).bind fun _ => ?_
    refine (Proc.asks_ask trivial).bind fun _ => (Proc.asks_ofResult _).bind fun _ => ?_
    refine (Proc.asks_ask trivial).bind fun _ => (Proc.asks_ofResult _).bind fun _ => ?_
    refine (hquiet (asks_checkFunding _ _ _)).bind fun _ => ?_
    exact asks_fill (hnamed _ rfl) (hchunks stored)
  | none =>
    refine (Proc.asks_failIf _ _).bind fun _ => (Proc.asks_ask trivial).bind fun _ => ?_
    refine (Proc.asks_ofResult _).bind fun _ => (Proc.asks_pure _).bind fun _ => ?_
    refine (hquiet (asks_checkFunding _ _ _)).bind fun _ => ?_
    -- Everything the session sends goes to the table it creates.
    dsimp only [create]
    rw [bind_assoc]
    refine (hquiet asks_recentCreationSlot).bind fun slot => ?_
    have htable : named (tableAddress authority slot) := hnamed _ ⟨slot, rfl⟩
    rw [bind_assoc]
    refine ((asks_send (.create htable)).mapErr _).bind fun _ => ?_
    rw [pure_bind]
    exact asks_fill htable (hchunks [])

/-! ### What it has seen -/

omit [Profile] in
theorem Holds.responds {keys : List Pubkey} {e : Event TableAnswer}
    (h : Holds table keys n.ledger) (hresponds : Responds authority n e n') :
    Holds table keys n'.ledger :=
  h.precedes hresponds.precedes

omit [Profile] in
/-- A table that is there stays, whatever is asked. -/
theorem withstands_stored {ε α : Type} {x : Proc TableAnswer Unit ε α}
    (hn : Holds table [] n.ledger) :
    Proc.Withstands (Responds authority) (fun _ => True) (fun n' _ _ => Holds table [] n'.ledger)
      n () x := by
  have hkept : Proc.Withstands (Responds authority) (fun n' => Holds table [] n'.ledger)
      (fun n' _ _ => Holds table [] n'.ledger) n () x :=
    .of_step (fun w e w' hw hresponds => Holds.responds hw hresponds) hn
  exact hkept.mono (fun _ _ => trivial) fun _ _ _ h => h

omit [Profile] in
/-- What is read of a table that is there is a state it had, and it has grown since. -/
theorem Network.Remembers.holds {account : Account} {state : TableState}
    (h : n.Remembers authority table account) (hn : Holds table [] n.ledger)
    (hstate : TableSdk.deserializeTable account.data = .ok state) :
    Holds table state.addresses n.ledger := by
  obtain ⟨l, hl, hshows, hnone⟩ := h
  obtain ⟨t, hstored, -⟩ := hn
  cases htable : l.tables table with
  | none => exact absurd (hnone htable) (by simp [hstored])
  | some t' =>
    rw [Shows, htable, hstate] at hshows
    have haddresses : state.addresses = t'.addresses := by rw [Except.ok.inj hshows.2]
    have hholds : Holds table state.addresses l := ⟨t', htable, by simp [haddresses]⟩
    rcases List.mem_cons.mp hl with rfl | hpast
    · exact hholds
    · exact hholds.precedes (n.past_precedes l hpast)

omit [Profile] in
/-- A table that passes for the authority's own is there. -/
theorem withstands_readOwnedTable_stored :
    Proc.Withstands (Responds authority) (fun _ => True)
      (fun n' r _ => ∀ stored, r = .ok stored → Holds table [] n'.ledger) n ()
      (readOwnedTable authority table) := by
  refine .ask_bind trivial fun answer n₁ hanswer => ?_
  refine .ofResult_bind trivial (fun e _ stored h => by cases h) fun account haccount => ?_
  rw [clientResult_eq_ok] at haccount
  subst haccount
  obtain ⟨-, l, hl, hshows, -⟩ := hanswer
  refine .failIf_bind trivial (fun _ stored h => by cases h) fun howner => ?_
  refine .ofResult_bind trivial (fun e _ stored h => by cases h) fun state hstate => ?_
  rw [clientResult_eq_ok] at hstate
  refine .failIf_bind trivial (fun _ stored h => by cases h) fun hauthority => ?_
  refine .failIf_bind trivial (fun _ stored h => by cases h) fun _ => ?_
  refine .pure trivial fun stored _ => ?_
  rw [Shows] at hshows
  split at hshows
  · rename_i t htable
    have hholds : Holds table [] l := ⟨t, htable, by simp⟩
    rcases List.mem_cons.mp hl with rfl | hpast
    · exact hholds
    · exact hholds.precedes (n₁.past_precedes l hpast)
  · exact absurd (not_not.mp hauthority) (hshows state (not_not.mp howner) hstate)

omit [Profile] in
/-- The wait ends when every wanted address was read. -/
theorem withstands_awaitActive_holds (desired : List Pubkey) (rounds : ℕ)
    (hn : Holds table [] n.ledger) :
    Proc.Withstands (Responds authority) (fun _ => True)
      (fun n' r _ => r = .ok () → Holds table desired n'.ledger) n ()
      (awaitActive table desired rounds) := by
  induction rounds generalizing n with
  | zero => exact .throw trivial fun h => by cases h
  | succ rounds ih =>
    have hsleep : ∀ n : Network, Holds table [] n.ledger →
        Proc.Withstands (Responds authority) (fun _ => True)
          (fun n' r _ => r = .ok () → Holds table desired n'.ledger) n ()
          (Proc.ask (TableQuery.sleep 500) >>= fun _ => awaitActive table desired rounds) :=
      fun n hn => .ask_bind trivial fun _ n' hslept => ih (hn.responds hslept)
    refine .ask_bind trivial fun answer n₁ hanswer => ?_
    have hn₁ := hn.responds hanswer
    refine .ofResult_bind trivial (fun e _ h => by cases h) fun account haccount => ?_
    rw [clientResult_eq_ok] at haccount
    subst haccount
    refine .ofResult_bind trivial (fun e _ h => by cases h) fun state hstate => ?_
    rw [clientResult_eq_ok] at hstate
    have hread := hanswer.2.holds hn₁ hstate
    by_cases hall : ∀ key ∈ desired, key ∈ state.addresses
    · rw [if_pos hall]
      refine .ask_bind trivial fun answer n₂ hslot => ?_
      have hread₂ := hread.responds hslot
      refine .ofResult_bind trivial (fun e _ h => by cases h) fun slot _ => ?_
      by_cases hwarm : slot > state.lastExtendedSlot
      · rw [if_pos hwarm]
        refine .pure trivial fun _ => ?_
        obtain ⟨t, hstored, hkeys⟩ := hread₂
        exact ⟨t, hstored, fun key hkey => hkeys key (hall key hkey)⟩
      · rw [if_neg hwarm]
        exact hsleep n₂ (hn₁.responds hslot)
    · rw [if_neg hall]
      exact hsleep n₁ hn₁

omit [Profile] in
theorem withstands_fill_holds {chunks : List (List Pubkey)} (hn : Holds table [] n.ledger) :
    Proc.Withstands (Responds authority) (fun _ => True)
      (fun n' r _ => ∀ key, r = .ok key → Holds key desired n'.ledger) n ()
      (do
        extendAll authority table chunks
        waitUntilActive table desired
        pure table) := by
  refine .bind (withstands_stored hn) (fun _ _ _ _ _ key h => by cases h) fun n₁ _ _ _ hn₁ => ?_
  refine .bind (withstands_awaitActive_holds desired activationAttempts hn₁)
    (fun _ _ _ _ _ key h => by cases h) fun n₂ _ _ _ hholds => ?_
  refine .pure trivial fun key h => ?_
  rw [← Except.ok.inj h]
  exact hholds rfl

omit [Profile] in
/-- A table whose creation was confirmed is there. -/
theorem withstands_create_stored :
    Proc.Withstands (Responds authority) (fun _ => True)
      (fun n' r _ => ∀ key, r = .ok key → Holds key [] n'.ledger) n () (create authority) := by
  have hquiet : ∀ {α : Type} (x : TableTask α) (n : Network),
      Proc.Withstands (Responds authority) (fun _ => True) (fun _ _ _ => True) n () x :=
    fun x n => .of_step (fun _ _ _ _ _ => trivial) trivial
  refine .bind (hquiet _ n) (fun _ _ _ _ _ key h => by cases h) fun n₁ slot _ _ _ => ?_
  have hsend : Proc.Withstands (Responds authority) (fun _ => True)
      (fun n' r _ => r = .ok () → Holds (tableAddress authority slot) [] n'.ledger) n₁ ()
      (send authority (.createLookupTable (tableAddress authority slot) authority authority
        slot)) := by
    refine .ask_bind trivial fun _ n₂ _ => ?_
    refine .ofResult_bind trivial (fun e _ h => by cases h) fun blockhash _ => ?_
    refine .ask_bind trivial fun confirmed n₃ hsent => ?_
    cases confirmed with
    | error e => exact .ofResult_bind trivial (fun e _ h => by cases h) fun _ h => by cases h
    | ok signature =>
      obtain ⟨m, l, hexecutes, -, hafter⟩ := hsent
      have hholds : Holds (tableAddress authority slot) [] l := by
        cases hexecutes
        exact ⟨_, Ledger.put_self .., by simp⟩
      refine .ofResult_bind trivial (fun e _ h => by cases h) fun _ _ => ?_
      exact .pure trivial fun _ => hholds.precedes hafter.precedes
  have hmapped : Proc.Withstands (Responds authority) (fun _ => True)
      (fun n' r _ => r = .ok () → Holds (tableAddress authority slot) [] n'.ledger) n₁ ()
      (Proc.mapErr (inContext "create table: ") (send authority
        (.createLookupTable (tableAddress authority slot) authority authority slot))) :=
    .mapErr (hsend.mono (fun _ h => h) fun _ _ _ h hr => h (mapError_eq_ok.mp hr))
  refine .bind hmapped (fun _ _ _ _ _ key h => by cases h) fun n₂ _ _ _ hstored => ?_
  refine .pure trivial fun key h => ?_
  rw [← Except.ok.inj h]
  exact hstored rfl

/-- **A session that completes leaves nothing out**, whatever its node has shown it. -/
theorem withstands_populate_holds (authority : Pubkey) (existing : Option Pubkey)
    (desired : List Pubkey) (n : Network) :
    Proc.Withstands (Responds authority) (fun _ => True)
      (fun n' r _ => ∀ key, r = .ok key → Holds key desired n'.ledger) n ()
      (populate authority existing desired) := by
  have hany : ∀ {α : Type} (x : TableTask α) (n : Network),
      Proc.Withstands (Responds authority) (fun _ => True) (fun _ _ _ => True) n () x :=
    fun x n => .of_step (fun _ _ _ _ _ => trivial) trivial
  unfold populate
  dsimp only
  cases existing with
  | some table =>
    refine .bind withstands_readOwnedTable_stored (fun _ _ _ _ _ key h => by cases h)
      fun n₁ stored _ _ hread => ?_
    have hn₁ := hread stored rfl
    refine .failIf_bind trivial (fun _ key h => by cases h) fun _ => ?_
    refine .ask_bind trivial fun _ n₂ hrent => ?_
    refine .ofResult_bind trivial (fun _ _ key h => by cases h) fun _ _ => ?_
    refine .ask_bind trivial fun _ n₃ hbalance => ?_
    refine .ofResult_bind trivial (fun _ _ key h => by cases h) fun _ _ => ?_
    refine .bind (withstands_stored ((hn₁.responds hrent).responds hbalance))
      (fun _ _ _ _ _ key h => by cases h) fun n₄ _ _ _ hn₄ => ?_
    exact withstands_fill_holds hn₄
  | none =>
    refine .failIf_bind trivial (fun _ key h => by cases h) fun _ => ?_
    refine .ask_bind trivial fun _ n₁ _ => ?_
    refine .ofResult_bind trivial (fun _ _ key h => by cases h) fun _ _ => ?_
    refine .bind (hany _ n₁) (fun _ _ _ _ _ key h => by cases h) fun n₂ _ _ _ _ => ?_
    refine .bind (hany _ n₂) (fun _ _ _ _ _ key h => by cases h) fun n₃ _ _ _ _ => ?_
    refine .bind withstands_create_stored (fun _ _ _ _ _ key h => by cases h)
      fun n₄ table _ _ hcreated => ?_
    exact withstands_fill_holds (hcreated table rfl)

/-! ### Any number of sessions -/

/-- Sessions on some of the tables, each of which may have been cut off, and time between. -/
inductive Sessions (authority : Pubkey) (desired : List Pubkey) (named : Pubkey → Prop)
    (n₀ : Network) : Network → Prop
  | none : Sessions authority desired named n₀ n₀
  | elapse {n n' : Network} : Sessions authority desired named n₀ n → n.Elapses n' →
      Sessions authority desired named n₀ n'
  | session {n n' : Network} (existing : Option Pubkey) :
      Sessions authority desired named n₀ n →
      (∀ key, Addressed authority existing key → named key) →
      Proc.Interrupted (Responds authority) (populate authority existing desired) n n' →
      Sessions authority desired named n₀ n'

/-- **No session stores anything unwanted**, and nothing that it leaves pending will. -/
theorem Sessions.tended {n₀ : Network} (h : Sessions authority desired named n₀ n)
    (hpending : n₀.pending = []) : Tended desired named n₀.ledger n := by
  induction h with
  | none => exact ⟨.refl desired named _, by simp [hpending]⟩
  | elapse _ helapses ih => exact ih.elapses helapses
  | @session m _ existing _ hnamed hsession ih =>
    have hwithstands : Proc.Withstands (Responds authority) (Tended desired named n₀.ledger)
        (fun n' _ _ => Tended desired named n₀.ledger n') m ()
        (populate authority existing desired) :=
      .of_asks (asks_populate authority existing desired hnamed)
        (fun _ _ _ htended hquery hresponds => htended.responds hquery hresponds) ih
    exact hwithstands.interrupted hsession

/-! ## 3.  Sessions that start with nothing pending -/

/-- The ledger has the table, and otherwise the tables it had. -/
structure Stage (l₀ : Ledger) (table : Pubkey) (t : LookupTableState) (l : Ledger) : Prop where
  stored : l.tables table = some t
  others : ∀ key, key ≠ table → l.tables key = l₀.tables key

/-- The table holds its first addresses and a prefix of what it lacked, and nothing else
changed. -/
def Growing (l₀ : Ledger) (table : Pubkey) (base desired : List Pubkey) (l : Ledger) : Prop :=
  ∃ t added rest, Stage l₀ table t l ∧ t.deactivationSlot = 18446744073709551615 ∧
    t.addresses = base ++ added ∧ missing base desired = added ++ rest

/-- The table holds everything that was wanted, and it is warmed up. -/
def Filled (l₀ : Ledger) (table : Pubkey) (base desired : List Pubkey) (l : Ledger) : Prop :=
  ∃ t, Stage l₀ table t l ∧ t.deactivationSlot = 18446744073709551615 ∧
    t.addresses = base ++ missing base desired ∧ t.addresses.length ≤ maxAddresses ∧
    t.lastExtendedSlot < l.slot

/-- The table as the loop has it: what it lacked is what was added and what the chunks hold. -/
def Extending (l₀ : Ledger) (table : Pubkey) (base desired : List Pubkey)
    (chunks : List (List Pubkey)) (l : Ledger) : Prop :=
  ∃ t added, Stage l₀ table t l ∧ t.deactivationSlot = 18446744073709551615 ∧
    t.addresses = base ++ added ∧ missing base desired = added ++ chunks.flatten

/-- Time does not change it. -/
def Steady (inv : Ledger → Prop) : Prop :=
  ∀ l l', inv l → l.Passes l' → inv l'

/-- Nothing is pending, and the ledger satisfies `inv`. -/
structure Calm (inv : Ledger → Prop) (n : Network) : Prop where
  pending : n.pending = []
  ledger : inv n.ledger

/-- Whatever still lands, the ledger satisfies `inv`. -/
def Secure (inv : Ledger → Prop) (n : Network) : Prop :=
  ∀ n', n.Elapses n' → inv n'.ledger

section Ledger

omit [TableSdk] [Profile]

variable {l₀ l l' : Ledger} {t : LookupTableState} {base : List Pubkey}
  {chunks : List (List Pubkey)} {inv crash : Ledger → Prop}

theorem steady_stage : Steady (Stage l₀ table t) := by
  intro l l' h hpasses
  refine ⟨?_, fun key hkey => ?_⟩
  · rw [hpasses.tables, h.stored]
  · rw [hpasses.tables, h.others key hkey]

theorem steady_extending : Steady (Extending l₀ table base desired chunks) := by
  rintro l l' ⟨t, added, hstage, hactive, hkeys, hmissing⟩ hpasses
  exact ⟨t, added, steady_stage l l' hstage hpasses, hactive, hkeys, hmissing⟩

theorem Extending.growing (h : Extending l₀ table base desired chunks l) :
    Growing l₀ table base desired l := by
  obtain ⟨t, added, hstage, hactive, hkeys, hmissing⟩ := h
  exact ⟨t, added, chunks.flatten, hstage, hactive, hkeys, hmissing⟩

/-- The next chunk is appended. -/
theorem Extending.executes {chunk : List Pubkey} {payer : Option Pubkey}
    (h : Extending l₀ table base desired (chunk :: chunks) l)
    (hexecutes : Executes (.extendLookupTable table authority payer chunk) l l') :
    Extending l₀ table base desired chunks l' := by
  obtain ⟨t, added, hstage, hactive, hkeys, hmissing⟩ := h
  cases hexecutes with
  | extend hstored =>
    rw [hstage.stored] at hstored
    obtain rfl := Option.some.inj hstored
    refine ⟨_, added ++ chunk, ⟨Ledger.put_self .., fun key hkey => ?_⟩, hactive, ?_, ?_⟩
    · rw [l.put_of_ne _ hkey, hstage.others key hkey]
    · simp only [hkeys, List.append_assoc]
    · simpa using hmissing

/-- With nothing pending, only time passes. -/
theorem Calm.elapses (h : Calm inv n) (hinv : Steady inv) (helapses : n.Elapses n') :
    Calm inv n' := by
  obtain ⟨hpending, hpasses⟩ := helapses.passes h.pending
  exact ⟨hpending, hinv _ _ h.ledger hpasses⟩

theorem Calm.secure (h : Calm inv n) (hinv : Steady inv) (hcrash : ∀ l, inv l → crash l) :
    Secure crash n :=
  fun _ helapses => hcrash _ (h.elapses hinv helapses).ledger

end Ledger

section Steps

omit [Profile]

variable {l₀ : Ledger} {t : LookupTableState} {base : List Pubkey}
  {chunks : List (List Pubkey)} {inv next crash : Ledger → Prop}

theorem Calm.responds {e : Event TableAnswer} (h : Calm inv n) (hinv : Steady inv)
    (hresponds : Prompt authority n e n') (hquiet : TableQuery.Quiet e.query) : Calm inv n' :=
  h.elapses hinv (hresponds.1.elapses hquiet)

/-- What is read of the table is the table. -/
theorem Calm.shown {account : Account} (h : Calm (Stage l₀ table t) n)
    (hanswer : Prompt authority n ⟨.getAccount table, .ok account⟩ n') :
    account.owner = lookupTableProgram ∧
      TableSdk.deserializeTable account.data = .ok ⟨t, some authority⟩ := by
  have hshows : Shows authority n'.ledger table account := hanswer.2
  exact hshows.of_stored (h.responds steady_stage hanswer trivial).ledger.stored

/-- What asks only quiet questions keeps what time does not change. -/
theorem withstands_quiet {ε α : Type} {x : Proc TableAnswer Unit ε α}
    (hx : x.Asks TableQuery.Quiet) (hinv : Steady inv) (hcrash : ∀ l, inv l → crash l)
    (hn : Calm inv n) :
    Proc.Withstands (Prompt authority) (Secure crash) (fun n' _ _ => Calm inv n') n () x := by
  have hkeeps : Proc.Withstands (Prompt authority) (Calm inv) (fun n' _ _ => Calm inv n') n ()
      x :=
    .of_asks hx (fun _ _ _ hw hquiet hresponds => hw.responds hinv hresponds hquiet) hn
  exact hkeeps.mono (fun _ h => h.secure hinv hcrash) fun _ _ _ h => h

/-- A confirmed instruction was executed; one that failed may be, now or later. -/
theorem withstands_send {f : Fault AnyError → Fault AnyError} {i : TableInstruction}
    (hinv : Steady inv) (hnext : Steady next) (hcrash : ∀ l, inv l → crash l)
    (hcrash' : ∀ l, next l → crash l) (hexecutes : ∀ m l, inv m → Executes i m l → next l)
    (hn : Calm inv n) :
    Proc.Withstands (Prompt authority) (Secure crash) (fun n' r _ => r = .ok () → Calm next n')
      n () (Proc.mapErr f (send authority i)) := by
  have hsend : Proc.Withstands (Prompt authority) (Secure crash)
      (fun n' r _ => r = .ok () → Calm next n') n () (send authority i) := by
    refine .ask_bind (hn.secure hinv hcrash) fun answer n₁ hanswer => ?_
    have hn₁ := hn.responds hinv hanswer trivial
    refine .ofResult_bind (hn₁.secure hinv hcrash) (fun e _ h => by cases h) fun blockhash _ => ?_
    refine .ask_bind (hn₁.secure hinv hcrash) fun confirmed n₂ hsent => ?_
    cases confirmed with
    | error e =>
      -- What is pending now is this instruction, and nothing else.
      have hpending : (n₁.send i).pending = [i] := by rw [Network.send, hn₁.pending]; rfl
      have hsent : (n₁.send i).Elapses n₂ := hsent.1
      have hsecure : Secure crash n₂ := by
        intro n₃ helapses
        rcases (hsent.trans helapses).passes_or_executes hpending with
          hpasses | ⟨m, l, hm, hexecuted, hl⟩
        · exact hcrash _ (hinv _ _ hn₁.ledger hpasses)
        · exact hcrash' _ (hnext _ _ (hexecutes m l (hinv _ _ hn₁.ledger hm) hexecuted) hl)
      exact .ofResult_bind hsecure (fun e _ h => by cases h) fun _ h => by cases h
    | ok signature =>
      obtain ⟨m, l, hexecuted, hbefore, hafter⟩ := hsent.1
      have hm := hn₁.elapses hinv hbefore
      have hl : Calm next (m.advance l hexecuted.precedes) :=
        ⟨hm.pending, hexecutes _ _ hm.ledger hexecuted⟩
      have hn₂ := hl.elapses hnext hafter
      exact .ofResult_bind (hn₂.secure hnext hcrash') (fun e _ h => by cases h) fun _ _ =>
        .pure (hn₂.secure hnext hcrash') fun _ => hn₂
  exact .mapErr (hsend.mono (fun _ h => h) fun _ _ _ h hr => h (mapError_eq_ok.mp hr))

/-- The session reads the table as it is. -/
theorem withstands_readOwnedTable (hcrash : ∀ l, Stage l₀ table t l → crash l)
    (hn : Calm (Stage l₀ table t) n) :
    Proc.Withstands (Prompt authority) (Secure crash)
      (fun n' r _ => ∀ stored, r = .ok stored → Calm (Stage l₀ table t) n' ∧
        stored = t.addresses) n ()
      (readOwnedTable authority table) := by
  refine .ask_bind (hn.secure steady_stage hcrash) fun answer n' hanswer => ?_
  have hn' := hn.responds steady_stage hanswer trivial
  have hcrash' := hn'.secure steady_stage hcrash
  refine .ofResult_bind hcrash' (fun e _ stored h => by cases h) fun account haccount => ?_
  rw [clientResult_eq_ok] at haccount
  subst haccount
  refine .failIf_bind hcrash' (fun _ stored h => by cases h) fun _ => ?_
  refine .ofResult_bind hcrash' (fun e _ stored h => by cases h) fun state hstate => ?_
  rw [clientResult_eq_ok, (hn.shown hanswer).2] at hstate
  obtain rfl := Except.ok.inj hstate
  refine .failIf_bind hcrash' (fun _ stored h => by cases h) fun _ => ?_
  refine .failIf_bind hcrash' (fun _ stored h => by cases h) fun _ => ?_
  exact .pure hcrash' fun stored h => ⟨hn', (Except.ok.inj h).symm⟩

/-- A round ends the wait only for a table that is warmed up. -/
theorem withstands_awaitActive (desired : List Pubkey) (rounds : ℕ)
    (hcrash : ∀ l, Stage l₀ table t l → crash l) (hn : Calm (Stage l₀ table t) n) :
    Proc.Withstands (Prompt authority) (Secure crash)
      (fun n' r _ => r = .ok () → Calm (Stage l₀ table t) n' ∧
        t.lastExtendedSlot < n'.ledger.slot) n ()
      (awaitActive table desired rounds) := by
  have hsecure : ∀ {n : Network}, Calm (Stage l₀ table t) n → Secure crash n :=
    fun hn => hn.secure steady_stage hcrash
  induction rounds generalizing n with
  | zero => exact .throw (hsecure hn) fun h => by cases h
  | succ rounds ih =>
    refine .ask_bind (hsecure hn) fun answer n₁ hanswer => ?_
    have hn₁ := hn.responds steady_stage hanswer trivial
    refine .ofResult_bind (hsecure hn₁) (fun e _ h => by cases h) fun account haccount => ?_
    rw [clientResult_eq_ok] at haccount
    subst haccount
    refine .ofResult_bind (hsecure hn₁) (fun e _ h => by cases h) fun state hstate => ?_
    rw [clientResult_eq_ok, (hn.shown hanswer).2] at hstate
    obtain rfl := Except.ok.inj hstate
    have hsleep : ∀ n', Calm (Stage l₀ table t) n' →
        Proc.Withstands (Prompt authority) (Secure crash)
          (fun n' r _ => r = .ok () → Calm (Stage l₀ table t) n' ∧
            t.lastExtendedSlot < n'.ledger.slot) n' ()
          (Proc.ask (TableQuery.sleep 500) >>= fun _ => awaitActive table desired rounds) :=
      fun n' hn' => .ask_bind (hsecure hn') fun _ n'' hslept =>
        ih (hn'.responds steady_stage hslept trivial)
    by_cases hall : ∀ key ∈ desired, key ∈ t.addresses
    · rw [if_pos hall]
      refine .ask_bind (hsecure hn₁) fun answer n₂ hslot => ?_
      have hn₂ := hn₁.responds steady_stage hslot trivial
      refine .ofResult_bind (hsecure hn₂) (fun e _ h => by cases h) fun slot heq => ?_
      rw [clientResult_eq_ok] at heq
      subst heq
      by_cases hwarm : slot > t.lastExtendedSlot
      · rw [if_pos hwarm]
        exact .pure (hsecure hn₂) fun _ => ⟨hn₂, UInt64.lt_of_lt_of_le hwarm hslot.1.2⟩
      · rw [if_neg hwarm]
        exact hsleep n₂ hn₂
    · rw [if_neg hall]
      exact hsleep n₁ hn₁

/-- Each chunk that is sent is appended once, or the loop ends. -/
theorem withstands_extendAll (hcrash : ∀ l, Growing l₀ table base desired l → crash l)
    (hn : Calm (Extending l₀ table base desired chunks) n) :
    Proc.Withstands (Prompt authority) (Secure crash)
      (fun n' r _ => r = .ok () → Calm (Extending l₀ table base desired []) n') n ()
      (extendAll authority table chunks) := by
  have hgrowing : ∀ {chunks : List (List Pubkey)} (l : Ledger),
      Extending l₀ table base desired chunks l → crash l := fun l hl => hcrash l hl.growing
  induction chunks generalizing n with
  | nil => exact .pure (hn.secure steady_extending hgrowing) fun _ => hn
  | cons chunk rest ih =>
    refine .bind (withstands_send steady_extending steady_extending hgrowing hgrowing
      (fun m l hm hexecuted => hm.executes hexecuted) hn) ?_ ?_
    · intro n' e _ _ _ h
      cases h
    · intro n' _ _ _ hsent
      exact ih (hsent rfl)

/-- What both kinds of sessions end with. -/
theorem withstands_fill (hroom : (base ++ missing base desired).length ≤ maxAddresses)
    (hcrash : ∀ l, Growing l₀ table base desired l → crash l)
    (hn : Calm (Extending l₀ table base desired chunks) n) :
    Proc.Withstands (Prompt authority) (Secure crash)
      (fun n' r _ => ∀ key, r = .ok key →
        key = table ∧ n'.pending = [] ∧ Filled l₀ table base desired n'.ledger) n ()
      (do
        extendAll authority table chunks
        waitUntilActive table desired
        pure table) := by
  refine .bind (withstands_extendAll hcrash hn) (fun _ _ _ _ _ key h => by cases h)
    fun n₁ _ _ _ hextended => ?_
  obtain ⟨hpending, t, added, hstage, hactive, hkeys, hmissing⟩ := hextended rfl
  have hkept : ∀ l, Stage l₀ table t l → crash l := fun l hl =>
    hcrash l ⟨t, added, _, hl, hactive, hkeys, hmissing⟩
  refine .bind (withstands_awaitActive desired activationAttempts hkept ⟨hpending, hstage⟩)
    (fun _ _ _ _ _ key h => by cases h) fun n₂ _ _ hcrash₂ hwarm => ?_
  obtain ⟨hn₂, hslot⟩ := hwarm rfl
  have hall : t.addresses = base ++ missing base desired := by
    rw [hkeys, hmissing, List.flatten_nil, List.append_nil]
  exact .pure hcrash₂ fun key h =>
    ⟨(Except.ok.inj h).symm, hn₂.pending, t, hn₂.ledger, hactive, hall, hall ▸ hroom, hslot⟩

end Steps

/-- **A session on a table withstands every interruption**: wherever it is cut off, and whatever
still lands, the table holds its first addresses and a prefix of what it lacked, and where it
completes, all of it. -/
theorem withstands_populate {l₀ : Ledger} {base : List Pubkey} (hdesired : desired.Nodup)
    (hn : Calm (Growing l₀ table base desired) n) :
    Proc.Withstands (Prompt authority) (Secure (Growing l₀ table base desired))
      (fun n' r _ => ∀ key, r = .ok key →
        key = table ∧ n'.pending = [] ∧ Filled l₀ table base desired n'.ledger) n ()
      (populate authority (some table) desired) := by
  obtain ⟨hpending, t, added, rest, hstage, hactive, hkeys, hmissing⟩ := hn
  have hkept : ∀ l, Stage l₀ table t l → Growing l₀ table base desired l :=
    fun l hl => ⟨t, added, rest, hl, hactive, hkeys, hmissing⟩
  have hsecure : ∀ {n : Network}, Calm (Stage l₀ table t) n →
      Secure (Growing l₀ table base desired) n := fun hn => hn.secure steady_stage hkept
  unfold populate
  dsimp only
  refine .bind (withstands_readOwnedTable hkept ⟨hpending, hstage⟩)
    (fun _ _ _ _ _ key h => by cases h) fun n₁ stored _ _ hread => ?_
  obtain ⟨hn₁, rfl⟩ := hread stored rfl
  have hlacks : missing t.addresses desired = rest := by
    rw [hkeys]
    exact missing_append hdesired hmissing
  refine .failIf_bind (hsecure hn₁) (fun _ key h => by cases h) fun hfits => ?_
  have hroom : (base ++ missing base desired).length ≤ maxAddresses := by
    rw [hlacks, hkeys, not_not] at hfits
    rw [hmissing]
    simpa [Nat.add_assoc] using hfits
  refine .ask_bind (hsecure hn₁) fun _ n₂ hrent => ?_
  have hn₂ := hn₁.responds steady_stage hrent trivial
  refine .ofResult_bind (hsecure hn₂) (fun _ _ key h => by cases h) fun _ _ => ?_
  refine .ask_bind (hsecure hn₂) fun _ n₃ hbalance => ?_
  have hn₃ := hn₂.responds steady_stage hbalance trivial
  refine .ofResult_bind (hsecure hn₃) (fun _ _ key h => by cases h) fun _ _ => ?_
  refine .bind (withstands_quiet (asks_checkFunding _ _ _) steady_stage hkept hn₃)
    (fun _ _ _ _ _ key h => by cases h) fun n₄ _ _ _ hn₄ => ?_
  refine withstands_fill hroom (fun _ h => h)
    ⟨hn₄.pending, t, added, hn₄.ledger, hactive, hkeys, ?_⟩
  rw [flatten_chunks, hlacks, hmissing]

/-- Nothing happened to the tables, or a table came into being and is growing. -/
def Begun (l₀ : Ledger) (desired : List Pubkey) (l : Ledger) : Prop :=
  l.tables = l₀.tables ∨ ∃ table, l₀.tables table = none ∧ Growing l₀ table [] desired l

/-- The tables are those of `l₀`. -/
def Untouched (l₀ l : Ledger) : Prop :=
  l.tables = l₀.tables

section Creation

variable {l₀ l l' : Ledger}

omit [TableSdk] [Profile] in
theorem steady_untouched : Steady (Untouched l₀) :=
  fun _ _ hl hpasses => hpasses.tables.trans hl

omit [TableSdk] [Profile] in
theorem Untouched.begun (h : Untouched l₀ l) : Begun l₀ desired l :=
  Or.inl h

/-- A table that was created, before its first chunk. -/
def Created (l₀ : Ledger) (desired : List Pubkey) (table : Pubkey) (l : Ledger) : Prop :=
  l₀.tables table = none ∧
    Extending l₀ table [] desired (chunks extendChunkSize (missing [] desired)) l

omit [TableSdk] [Profile] in
theorem steady_created : Steady (Created l₀ desired table) :=
  fun l l' hl hpasses => ⟨hl.1, steady_extending l l' hl.2 hpasses⟩

omit [TableSdk] [Profile] in
theorem Created.begun (h : Created l₀ desired table l) : Begun l₀ desired l :=
  Or.inr ⟨table, h.1, h.2.growing⟩

omit [TableSdk] [Profile] in
theorem Untouched.creates {payer : Pubkey} {recentSlot : UInt64} (h : Untouched l₀ l)
    (hexecutes : Executes (.createLookupTable table authority payer recentSlot) l l') :
    Created l₀ desired table l' := by
  cases hexecutes with
  | create hnone =>
    rw [h] at hnone
    refine ⟨hnone, ⟨18446744073709551615, 0, []⟩, [], ⟨Ledger.put_self .., fun key hkey => ?_⟩,
      rfl, rfl, ?_⟩
    · rw [l.put_of_ne _ hkey, h]
    · rw [flatten_chunks, List.nil_append]

omit [Profile] in
/-- A session that creates a table and is confirmed has created that one. -/
theorem withstands_create (desired : List Pubkey) (hn : Calm (Untouched l₀) n) :
    Proc.Withstands (Prompt authority) (Secure (Begun l₀ desired))
      (fun n' r _ => ∀ key, r = .ok key → Calm (Created l₀ desired key) n') n ()
      (create authority) := by
  refine .bind (withstands_quiet asks_recentCreationSlot steady_untouched
    (fun _ h => h.begun) hn) (fun _ _ _ _ _ key h => by cases h) fun n₁ slot _ _ hn₁ => ?_
  refine .bind (withstands_send steady_untouched steady_created (fun _ h => h.begun)
    (fun _ h => h.begun) (fun _ _ hm hexecuted => hm.creates hexecuted) hn₁)
    (fun _ _ _ _ _ key h => by cases h) fun n₂ _ _ hsecure hsent => .pure hsecure ?_
  rintro key ⟨⟩
  exact hsent rfl

end Creation

/-- **So does a session that creates its table.** -/
theorem withstands_populate_new (desired : List Pubkey) (hpending : n.pending = []) :
    Proc.Withstands (Prompt authority) (Secure (Begun n.ledger desired))
      (fun n' r _ => ∀ key, r = .ok key → n.ledger.tables key = none ∧ n'.pending = [] ∧
        Filled n.ledger key [] desired n'.ledger) n ()
      (populate authority none desired) := by
  have hkept : ∀ l, Untouched n.ledger l → Begun n.ledger desired l := fun _ h => h.begun
  have hn : Calm (Untouched n.ledger) n := ⟨hpending, rfl⟩
  unfold populate
  dsimp only
  refine .failIf_bind (hn.secure steady_untouched hkept) (fun _ key h => by cases h)
    fun hfits => ?_
  have hroom : ([] ++ missing [] desired).length ≤ maxAddresses := by
    simpa using hfits
  refine .ask_bind (hn.secure steady_untouched hkept) fun _ n₁ hrent => ?_
  have hn₁ := hn.responds steady_untouched hrent trivial
  refine .ofResult_bind (hn₁.secure steady_untouched hkept) (fun _ _ key h => by cases h)
    fun _ _ => ?_
  refine .bind (withstands_quiet (Proc.asks_pure _) steady_untouched hkept hn₁)
    (fun _ _ _ _ _ key h => by cases h) fun n₂ _ _ _ hn₂ => ?_
  refine .bind (withstands_quiet (asks_checkFunding _ _ _) steady_untouched hkept hn₂)
    (fun _ _ _ _ _ key h => by cases h) fun n₃ _ _ _ hn₃ => ?_
  refine .bind (withstands_create desired hn₃) (fun _ _ _ _ _ key h => by cases h)
    fun n₄ table _ _ hnew => ?_
  obtain ⟨hpending₄, hnone, hextending⟩ := hnew table rfl
  have hbegun : ∀ l, Growing n.ledger table [] desired l → Begun n.ledger desired l :=
    fun _ hgrowing => Or.inr ⟨table, hnone, hgrowing⟩
  refine (withstands_fill hroom hbegun ⟨hpending₄, hextending⟩).mono (fun _ h => h)
    fun n' r _ hfilled key hkey => ?_
  obtain ⟨rfl, hdone⟩ := hfilled key hkey
  exact ⟨hnone, hdone⟩

/-! ## 4.  Any number of sessions -/

/-- **A table that was worked on with patience**: it was there, or a session created it, and any
number of sessions came after; each may have been cut off, and before the next one starts
everything it sent has landed or was lost. -/
inductive Resumed (authority : Pubkey) (desired : List Pubkey) (n₀ : Network) (table : Pubkey) :
    List Pubkey → Network → Prop
  | existing {base : List Pubkey} {t : LookupTableState} : n₀.pending = [] →
      n₀.ledger.tables table = some t → t.deactivationSlot = 18446744073709551615 →
      t.addresses = base → Resumed authority desired n₀ table base n₀
  | created {m n : Network} : n₀.pending = [] →
      Proc.Interrupted (Prompt authority) (populate authority none desired) n₀ m →
      m.Elapses n → n.pending = [] → n₀.ledger.tables table = none →
      n.ledger.tables table ≠ none → Resumed authority desired n₀ table [] n
  | session {base : List Pubkey} {m m' n : Network} : Resumed authority desired n₀ table base m →
      Proc.Interrupted (Prompt authority) (populate authority (some table) desired) m m' →
      m'.Elapses n → n.pending = [] → Resumed authority desired n₀ table base n

/-- A table that was worked on with patience is a growing one. -/
theorem Resumed.growing {n₀ : Network} {base : List Pubkey} (hdesired : desired.Nodup)
    (h : Resumed authority desired n₀ table base n) :
    Calm (Growing n₀.ledger table base desired) n := by
  induction h with
  | existing hpending hstored hactive hkeys =>
    exact ⟨hpending, _, [], _, ⟨hstored, fun _ _ => rfl⟩, hactive,
      by rw [hkeys, List.append_nil], rfl⟩
  | @created m n hpending₀ hsession helapses hpending hnone hsome =>
    refine ⟨hpending, ?_⟩
    have hbegun := (withstands_populate_new desired hpending₀).interrupted hsession n helapses
    rcases hbegun with hsame | ⟨key, -, t, added, rest, hstage, hgrown⟩
    · rw [hsame] at hsome
      exact absurd hnone hsome
    · have hkey : key = table := by
        by_contra hne
        exact hsome ((hstage.others table (Ne.symm hne)).trans hnone)
      subst hkey
      exact ⟨t, added, rest, hstage, hgrown⟩
  | @session base m m' n _ hsession helapses hpending ih =>
    exact ⟨hpending, (withstands_populate hdesired ih).interrupted hsession n helapses⟩

omit [Profile] in
theorem Shows.loaded {l : Ledger} {t : LookupTableState} {account : Account}
    (h : Shows authority l table account) (hstored : l.tables table = some t) :
    Sdk.deserializeLookupTable account.data = .ok t := by
  rw [TableSdk.deserializeLookupTable_eq, (h.of_stored hstored).2]
  rfl

omit [Profile] in
/-- What the client reads of a table. -/
theorem Holds.decoded {keys : List Pubkey} {l : Ledger} (h : Holds table keys l)
    {account : Account} {slot : UInt64} {loaded : AddressLookupTableAccount}
    (hshows : Shows authority l table account)
    (hload : decodeLookupTable table account.owner account.data slot = .ok loaded) :
    ∀ key ∈ keys, key ∈ loaded.addresses := by
  obtain ⟨t, hstored, hall⟩ := h
  have hstate := hshows.loaded hstored
  obtain ⟨_, -, h₁⟩ := bind_eq_ok.mp hload
  obtain ⟨state, hdecoded, h₂⟩ := bind_eq_ok.mp h₁
  obtain ⟨_, -, h₃⟩ := bind_eq_ok.mp h₂
  have hsame : state = t := Except.ok.inj ((mapError_eq_ok.mp hdecoded).symm.trans hstate)
  rw [← pure_eq_ok.mp h₃, hsame]
  exact hall

omit [Profile] in
/-- The client accepts what a completed session leaves, as soon as its node is as far. -/
theorem Filled.loads {l₀ l : Ledger} {base : List Pubkey} (h : Filled l₀ table base desired l)
    {account : Account} {slot : UInt64} (hshows : Shows authority l table account)
    (hslot : l.slot ≤ slot) :
    decodeLookupTable table account.owner account.data slot =
      .ok ⟨table, base ++ missing base desired⟩ := by
  obtain ⟨t, hstage, hactive, hkeys, -, hwarm⟩ := h
  have howner := (hshows.of_stored hstage.stored).1
  have hstate := hshows.loaded hstage.stored
  have hlate : ¬ slot ≤ t.lastExtendedSlot := by
    rw [UInt64.not_le]
    exact UInt64.lt_of_lt_of_le hwarm hslot
  refine bind_eq_ok.mpr ⟨(), failIf_eq_ok.mpr (not_not.mpr howner), bind_eq_ok.mpr ⟨t,
    mapError_eq_ok.mpr hstate, bind_eq_ok.mpr ⟨(), failIf_eq_ok.mpr ?_, by rw [hkeys]; rfl⟩⟩⟩
  exact not_or.mpr ⟨not_not.mpr hactive, hlate⟩

/-- **An interrupted population is resumed, not repeated.**

Whatever sessions were cut off before, and wherever, whatever a lagging node has shown them, and
whatever of theirs lands late: every table keeps its first addresses, everything that was added
was wanted, no more than fits, on the named tables only; and a session that completes leaves a
table with every wanted address, for every client that loads it.

If everything that a session sent has landed or was lost before the next one starts, and the node
does not lag, then the table holds its first addresses and a prefix of what it lacked, and a
session that completes leaves exactly what one undisturbed session would have left: no address
twice, and a table that the client loads. -/
theorem population_resumable {desired : List Pubkey} (hdesired : desired.Nodup) :
    (∀ named n₀ n, n₀.pending = [] → Sessions authority desired named n₀ n →
      Kept desired named n₀.ledger n.ledger ∧
      ∀ existing tr key n', (populate authority existing desired).Runs () tr (.ok key) () →
        (Responds authority).Path n tr n' →
        Holds key desired n'.ledger ∧
        ∀ account slot loaded, Shows authority n'.ledger key account →
          decodeLookupTable key account.owner account.data slot = .ok loaded →
          ∀ wanted ∈ desired, wanted ∈ loaded.addresses) ∧
    ∀ table base n₀ n, Resumed authority desired n₀ table base n →
      (∃ t added, Stage n₀.ledger table t n.ledger ∧ t.addresses = base ++ added ∧
        added <+: missing base desired) ∧
      ∀ tr key n', (populate authority (some table) desired).Runs () tr (.ok key) () →
        (Prompt authority).Path n tr n' →
        key = table ∧
        (∃ t, Stage n₀.ledger table t n'.ledger ∧ t.addresses = base ++ missing base desired ∧
          t.addresses.length ≤ maxAddresses ∧ (base.Nodup → t.addresses.Nodup)) ∧
        ∀ account slot, Shows authority n'.ledger table account → n'.ledger.slot ≤ slot →
          decodeLookupTable table account.owner account.data slot =
            .ok ⟨table, base ++ missing base desired⟩ := by
  constructor
  · intro named n₀ n hpending hsessions
    refine ⟨(hsessions.tended hpending).kept, fun existing tr key n' hrun hpath => ?_⟩
    have hholds := (withstands_populate_holds authority existing desired n).runs hrun hpath key rfl
    exact ⟨hholds, fun account slot loaded hshows hload => hholds.decoded hshows hload⟩
  · intro table base n₀ n hresumed
    have hgrowing := hresumed.growing hdesired
    constructor
    · obtain ⟨-, t, added, rest, hstage, -, hkeys, hmissing⟩ := hgrowing
      exact ⟨t, added, hstage, hkeys, rest, hmissing.symm⟩
    · intro tr key n' hrun hpath
      obtain ⟨rfl, -, hfilled⟩ := (withstands_populate hdesired hgrowing).runs hrun hpath key rfl
      refine ⟨rfl, ?_, fun account slot hshows hslot => hfilled.loads hshows hslot⟩
      obtain ⟨t, hstage, -, hkeys, hroom, -⟩ := hfilled
      exact ⟨t, hstage, hkeys, hroom, fun hbase => hkeys ▸ nodup_filled hbase hdesired⟩

end Sessions
end Node

/-! ### A table with one address -/

/-- The state of a table of the sample user: two slots and the addresses. -/
def encodeSampleTable (t : LookupTableState) : Bytes :=
  (Codec.u64.seq Codec.u64).encode (t.deactivationSlot, t.lastExtendedSlot) ++
    (t.addresses.map (Codec.fixed 32).encode).flatten

def decodeSampleTable (data : Bytes) : Except String TableState := do
  let (slots, rest) ← (Codec.u64.seq Codec.u64).decode data
  let (keys, _) ← Codec.decodeTimes (Codec.fixed 32) (rest.length / 32) rest
  pure ⟨⟨slots.1, slots.2, keys.toList⟩, some sampleUser⟩

theorem decodeSampleTable_encode (t : LookupTableState) :
    decodeSampleTable (encodeSampleTable t) = .ok ⟨t, some sampleUser⟩ := by
  have hlength : ((t.addresses.map (Codec.fixed 32).encode).flatten).length / 32 =
      t.addresses.length := by
    have hwidth : ∀ keys : List Pubkey,
        ((keys.map (Codec.fixed 32).encode).flatten).length = 32 * keys.length := by
      intro keys
      induction keys with
      | nil => rfl
      | cons key keys ih =>
        simp only [List.map_cons, List.flatten_cons, List.length_append, ih, List.length_cons]
        have hkey : ((Codec.fixed 32).encode key).length = 32 := key.size
        omega
    rw [hwidth, Nat.mul_div_cancel_left _ (by decide)]
  have hkeys := Codec.decodeTimes_encode (Codec.fixed 32)
    (⟨t.addresses.toArray, List.size_toArray⟩ : Vector Pubkey t.addresses.length) []
  rw [List.append_nil] at hkeys
  unfold decodeSampleTable encodeSampleTable
  rw [(Codec.u64.seq Codec.u64).decode_encode, ok_bind]
  dsimp only
  rw [hlength]
  refine bind_eq_ok.mpr ⟨_, hkeys, ?_⟩
  simp

@[reducible] def sampleTableSdk : TableSdk :=
  { sampleSdk with
    deserializeLookupTable := fun data =>
      (decodeSampleTable data).map TableState.toLookupTableState
    deserializeTable := decodeSampleTable
    deserializeSlotHashes := fun _ => .error "unexpected end of file"
    deserializeLookupTable_eq := fun _ => rfl }

/-- What an extension leaves; this network creates no table. -/
def Ledger.run (l : Ledger) : TableInstruction → Option Ledger
  | .createLookupTable _ _ _ _ => none
  | .extendLookupTable table _ _ added =>
      match l.tables table with
      | none => none
      | some t =>
          if t.deactivationSlot = 18446744073709551615 ∧ added ≠ [] ∧
              t.addresses.length + added.length ≤ maxAddresses then
            some (l.put table
              { t with addresses := t.addresses ++ added, lastExtendedSlot := l.slot })
          else none

theorem executes_of_run {i : TableInstruction} {l l' : Ledger} (h : l.run i = some l') :
    Executes i l l' := by
  cases i with
  | createLookupTable table authority payer slot => cases h
  | extendLookupTable table authority payer added =>
    cases hkey : l.tables table with
    | none => simp [Ledger.run, hkey] at h
    | some t =>
      simp only [Ledger.run, hkey, Option.ite_none_right_eq_some] at h
      obtain ⟨⟨hactive, hadded, hroom⟩, hrun⟩ := h
      rw [← Option.some.inj hrun]
      exact .extend hkey hactive hadded hroom

namespace Network

/-- The network after an instruction that is accepted. -/
def execute (n : Network) (i : TableInstruction) : Option Network :=
  match h : n.ledger.run i with
  | some l => some (n.advance l (executes_of_run h).precedes)
  | none => none

theorem execute_eq_some {n n' : Network} {i : TableInstruction} (h : n.execute i = some n') :
    ∃ l, ∃ hl : Executes i n.ledger l, n' = n.advance l hl.precedes := by
  unfold execute at h
  split at h
  · rename_i l hrun
    exact ⟨l, executes_of_run hrun, (Option.some.inj h).symm⟩
  · cases h

/-- What was sent first lands, or it is lost. -/
def settle (n : Network) : Network :=
  match n.pending with
  | [] => n
  | i :: rest =>
      match n.execute i with
      | some n' => { n' with pending := rest }
      | none => { n with pending := rest }

theorem elapses_settle (n : Network) : n.Elapses n.settle := by
  unfold settle
  split
  · exact .refl
  · rename_i i rest hpending
    have hfirst : n.pending = [] ++ i :: rest := hpending
    split
    · rename_i n' hexecute
      obtain ⟨l, hl, rfl⟩ := execute_eq_some hexecute
      exact .single (.land hfirst hl)
    · exact .single (.lose hfirst)

theorem passes_tick (l : Ledger) :
    l.Passes { l with slot := if l.slot < l.slot + 1 then l.slot + 1 else l.slot } := by
  refine ⟨?_, rfl⟩
  show l.slot ≤ if l.slot < l.slot + 1 then l.slot + 1 else l.slot
  split_ifs with hlt
  · exact UInt64.le_of_lt hlt
  · exact UInt64.le_refl _

/-- The next slot. -/
def tick (n : Network) : Network :=
  n.advance _ (passes_tick n.ledger).precedes

end Network

/-- A node that does not lag.  It reports every send as failed, or it confirms what it is sent
behind what was pending. -/
def tableNode (confirms : Bool) (n : Network) : (q : TableQuery) → TableAnswer q × Network
  | .getAccount key =>
      match n.ledger.tables key with
      | some t => (.ok ⟨lookupTableProgram, encodeSampleTable t⟩, n)
      | none => (.error "AccountNotFound", n)
  | .getBalance _ => (.ok 1000000000, n)
  | .getMinimumBalanceForRentExemption _ => (.ok 2000000, n)
  | .getLatestBlockhash => (.ok (.zero 32), n)
  | .getFeeForMessage _ _ => (.ok 5000, n)
  | .sendAndConfirmTransaction i _ _ =>
      match confirms, n.settle.execute i with
      | true, some n' => (.ok sampleSignature, n')
      | _, _ => (.error "unable to confirm transaction", n.send i)
  | .getSlot => (.ok n.ledger.slot, n)
  | .sleep _ => ((), n.tick)

theorem prompt_tableNode (confirms : Bool) (n : Network) (q : TableQuery) :
    let := sampleTableSdk
    Prompt sampleUser n ⟨q, (tableNode confirms n q).1⟩ (tableNode confirms n q).2 := by
  intro sdk
  cases q with
  | getAccount key =>
    cases hkey : n.ledger.tables key with
    | none =>
      simp only [tableNode, hkey]
      exact ⟨.refl, trivial⟩
    | some t =>
      have hshows : Shows sampleUser n.ledger key ⟨lookupTableProgram, encodeSampleTable t⟩ := by
        rw [Shows, hkey]
        exact ⟨rfl, decodeSampleTable_encode t⟩
      simp only [tableNode, hkey]
      exact ⟨⟨.refl, n.ledger, List.mem_cons_self, hshows, id⟩, hshows⟩
  | getBalance key => exact ⟨.refl, trivial⟩
  | getMinimumBalanceForRentExemption size => exact ⟨.refl, trivial⟩
  | getLatestBlockhash => exact ⟨.refl, trivial⟩
  | getFeeForMessage payer blockhash => exact ⟨.refl, trivial⟩
  | sendAndConfirmTransaction i payer blockhash =>
    dsimp only [tableNode]
    split
    · rename_i n' hexecute
      obtain ⟨l, hl, rfl⟩ := Network.execute_eq_some hexecute
      exact ⟨⟨n.settle, l, hl, n.elapses_settle, .refl⟩, trivial⟩
    · exact ⟨.refl, trivial⟩
  | getSlot => exact ⟨⟨.refl, UInt64.le_refl _⟩, trivial⟩
  | sleep milliseconds => exact ⟨.single (.pass (Network.passes_tick n.ledger)), trivial⟩

/-- A session against the sample node. -/
def sampleSession [Profile] (confirms : Bool) (n : Network) :
    Trace TableAnswer × Result AnyError Pubkey × Network :=
  let := sampleTableSdk
  let served := Program.serve (tableNode confirms) 0
    ((populate sampleUser (some sampleMint) [sampleUser, sampleFeeRecipient]).start ()) n
  (served.1, served.2.1.1, served.2.2)

theorem runs_sampleSession [Profile] (confirms : Bool) (n : Network) :
    let := sampleTableSdk
    (populate sampleUser (some sampleMint) [sampleUser, sampleFeeRecipient]).Runs ()
        (sampleSession confirms n).1 (sampleSession confirms n).2.1 () ∧
      (Prompt sampleUser).Path n (sampleSession confirms n).1 (sampleSession confirms n).2.2 := by
  intro sdk
  constructor
  · unfold Proc.Runs
    exact Program.runs_serve (tableNode confirms) 0 _ n
  · have hprompt : ∀ w q, Prompt sampleUser w ⟨q, (tableNode confirms w q).1⟩
        (tableNode confirms w q).2 := fun w q => prompt_tableNode confirms w q
    exact Program.path_serve hprompt 0
      ((populate sampleUser (some sampleMint) [sampleUser, sampleFeeRecipient]).start ()) n

/-- A table with one of the two wanted addresses. -/
def sampleNetwork : Network :=
  .start ⟨5, Function.update (fun _ => none) sampleMint
    (some ⟨18446744073709551615, 0, [sampleUser]⟩)⟩

/-- The addresses of the sample table. -/
def Network.stored (n : Network) : Option (List Pubkey) :=
  (n.ledger.tables sampleMint).map LookupTableState.addresses

/-- A session whose send is reported as failed. -/
def failedSession [Profile] : Network :=
  (sampleSession false sampleNetwork).2.2

/-- **A table resumed at once and a table resumed with patience.**  The first session sends the
missing address, is told that it failed, and leaves it pending.  If the next session does not
wait, both sends land and the table holds the address twice; if it waits until the first one has
landed, it finds nothing to send. -/
theorem population_resumable_sample :
    let := sampleTableSdk
    let : Profile := ⟨true⟩
    (∃ tr n, (populate sampleUser (some sampleMint) [sampleUser, sampleFeeRecipient]).Runs () tr
        (.ok sampleMint) () ∧ (Responds sampleUser).Path failedSession tr n ∧
      n.stored = some [sampleUser, sampleFeeRecipient, sampleFeeRecipient] ∧
      Holds sampleMint [sampleUser, sampleFeeRecipient] n.ledger) ∧
    ∃ tr n, (populate sampleUser (some sampleMint) [sampleUser, sampleFeeRecipient]).Runs () tr
        (.ok sampleMint) () ∧ (Prompt sampleUser).Path failedSession.settle tr n ∧
      ∃ t, n.ledger.tables sampleMint = some t ∧
        t.addresses = [sampleUser, sampleFeeRecipient] := by
  intro sdk profile
  have hdesired : [sampleUser, sampleFeeRecipient].Nodup := by decide +kernel
  have hstored : sampleNetwork.ledger.tables sampleMint =
      some ⟨18446744073709551615, 0, [sampleUser]⟩ := by simp [sampleNetwork, Network.start]
  have hprompt : ∀ w e w', Prompt sampleUser w e w' → Responds sampleUser w e w' :=
    fun _ _ _ h => h.1
  obtain ⟨hfirst, hfirstPath⟩ := runs_sampleSession false sampleNetwork
  rw [← List.append_nil (sampleSession false sampleNetwork).1] at hfirst
  constructor
  · have hsessions : Sessions sampleUser [sampleUser, sampleFeeRecipient] (· = sampleMint)
        sampleNetwork failedSession :=
      .session (some sampleMint) .none (fun _ h => h) ⟨_, [], _, hfirst, hfirstPath.mono hprompt⟩
    obtain ⟨hsecond, hsecondPath⟩ := runs_sampleSession true failedSession
    have hok : (sampleSession true failedSession).2.1.toOption = some sampleMint := by
      decide +kernel
    rw [toOption_eq_some.mp hok] at hsecond
    have hlater := hsecondPath.mono hprompt
    obtain ⟨-, hcomplete⟩ := (population_resumable hdesired).1 _ _ _ rfl hsessions
    obtain ⟨hholds, -⟩ := hcomplete (some sampleMint) _ _ _ hsecond hlater
    exact ⟨_, _, hsecond, hlater, by decide +kernel, hholds⟩
  · have hsettled : failedSession.settle.pending = [] :=
      List.length_eq_zero_iff.mp (by decide +kernel)
    have hresumed : Resumed sampleUser [sampleUser, sampleFeeRecipient] sampleNetwork sampleMint
        [sampleUser] failedSession.settle :=
      .session (.existing rfl hstored rfl rfl) ⟨_, [], _, hfirst, hfirstPath⟩
        failedSession.elapses_settle hsettled
    obtain ⟨hsecond, hsecondPath⟩ := runs_sampleSession true failedSession.settle
    have hok : (sampleSession true failedSession.settle).2.1.toOption = some sampleMint := by
      decide +kernel
    rw [toOption_eq_some.mp hok] at hsecond
    have hmissing : missing [sampleUser] [sampleUser, sampleFeeRecipient] =
        [sampleFeeRecipient] := by decide +kernel
    obtain ⟨-, hcomplete⟩ := (population_resumable hdesired).2 _ _ _ _ hresumed
    obtain ⟨-, ⟨t, hstage, hkeys, -⟩, -⟩ := hcomplete _ _ _ hsecond hsecondPath
    rw [hmissing] at hkeys
    exact ⟨_, _, hsecond, hsecondPath, t, hstage.stored, hkeys⟩

end LookupTableCreator
end Solana
end TradingAggregators
