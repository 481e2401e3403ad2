import TradingAggregators.Rust.FirstWins
import TradingAggregators.Solana.Client
import TradingAggregators.Solana.Reimbursement
import TradingAggregators.Solana.Submitting

/-!
# Shared lookup tables

Tables are made distinct in two ways: `merge_lookup_tables` keeps the first table of each key,
and `load_address_lookup_tables` loads each address once.  Both keep the first of each key, of
tables and of addresses (`FirstWins.firsts`).

## 1.  Merging and loading

`mergeLookupTables_eq` and `runs_loadAddressLookupTables`: what the two functions keep.

## 2.  The client's tables

`TablesCall` is a call that may set them; `DistinctKeys` holds after any calls.

## 3.  The tables of a submission

`shared_tables_well_formed` puts both together with the order in which a submission looks for a
table.
-/

namespace TradingAggregators
namespace Solana

open FirstWins Interaction Interaction.Program Rust Wire

variable {σ : Type}

/-! ## 1.  Merging and loading -/

/-- The table of a key. -/
def tableFor (key : Pubkey) (tables : List AddressLookupTableAccount) :
    Option AddressLookupTableAccount :=
  tables.find? fun table => table.key = key

/-- The tables have pairwise distinct keys. -/
def DistinctKeys (tables : List AddressLookupTableAccount) : Prop :=
  (tables.map AddressLookupTableAccount.key).Nodup

theorem firstOfEachKey_eq (seen : List Pubkey) (tables : List AddressLookupTableAccount) :
    firstOfEachKey seen tables = firsts AddressLookupTableAccount.key seen tables := by
  induction tables generalizing seen with
  | nil => rfl
  | cons table tables ih =>
    unfold firstOfEachKey firsts
    rw [ih, ih]

theorem mergeLookupTables_eq (primary supplemental : List AddressLookupTableAccount) :
    mergeLookupTables primary supplemental =
      merge AddressLookupTableAccount.key primary supplemental :=
  firstOfEachKey_eq [] _

theorem distinctKeys_mergeLookupTables (primary supplemental : List AddressLookupTableAccount) :
    DistinctKeys (mergeLookupTables primary supplemental) := by
  rw [mergeLookupTables_eq]
  exact nodup_keys_firsts _ _

/-- A table in `primary` comes before one in `supplemental`. -/
theorem tableFor_mergeLookupTables (key : Pubkey)
    (primary supplemental : List AddressLookupTableAccount) :
    tableFor key (mergeLookupTables primary supplemental) =
      (tableFor key primary).or (tableFor key supplemental) := by
  rw [mergeLookupTables_eq]
  exact find?_merge _ _ _

section Loading

variable [Sdk]

theorem runs_loadAddressLookupTable {address : Pubkey} {s s' : σ} {tr : Trace Answer}
    {table : AddressLookupTableAccount}
    (h : (loadAddressLookupTable address).Runs s tr (.ok table) s') : table.key = address := by
  obtain ⟨response, _, -, h₁⟩ := Proc.runs_ask_bind.mp h
  obtain ⟨answer, -, h₂⟩ := Proc.runs_ofResult_bind_ok.mp h₁
  obtain ⟨account, -, h₃⟩ := Proc.runs_ofResult_bind_ok.mp h₂
  obtain ⟨-, hdecoded, -⟩ := Proc.runs_ofResult.mp h₃
  obtain ⟨_, -, h₄⟩ := bind_eq_ok.mp hdecoded.symm
  obtain ⟨state, -, h₅⟩ := bind_eq_ok.mp h₄
  obtain ⟨_, -, h₆⟩ := bind_eq_ok.mp h₅
  rw [← pure_eq_ok.mp h₆]

/-- One table is loaded for each address that was not seen before. -/
theorem runs_loadUnseen {seen addresses : List Pubkey} {s s' : σ} {tr : Trace Answer}
    {tables : List AddressLookupTableAccount}
    (h : (loadUnseen seen addresses).Runs s tr (.ok tables) s') :
    tables.map AddressLookupTableAccount.key = firsts id seen addresses := by
  induction addresses generalizing seen s s' tr tables with
  | nil =>
    obtain ⟨-, htables, -⟩ := Proc.runs_pure.mp h
    rw [Except.ok.inj htables]
    rfl
  | cons address addresses ih =>
    unfold loadUnseen at h
    by_cases hseen : address ∈ seen
    · rw [if_pos hseen] at h
      rw [firsts_cons_of_mem hseen]
      exact ih h
    · rw [if_neg hseen] at h
      obtain ⟨table, _, _, _, -, hload, h₁⟩ := Proc.runs_bind_ok.mp h
      obtain ⟨rest, _, _, _, -, hrest, h₂⟩ := Proc.runs_bind_ok.mp h₁
      obtain ⟨-, htables, -⟩ := Proc.runs_pure.mp h₂
      rw [Except.ok.inj htables, firsts_cons_of_notMem hseen, List.map_cons,
        runs_loadAddressLookupTable hload, ih hrest]
      rfl

theorem runs_loadAddressLookupTables {addresses : List Pubkey} {s s' : σ} {tr : Trace Answer}
    {tables : List AddressLookupTableAccount}
    (h : (loadAddressLookupTables addresses).Runs s tr (.ok tables) s') :
    tables.map AddressLookupTableAccount.key = firsts id [] addresses :=
  runs_loadUnseen h

/-- What is loaded has distinct keys, in the order of the addresses. -/
theorem distinctKeys_loaded {addresses : List Pubkey} {s s' : σ} {tr : Trace Answer}
    {tables : List AddressLookupTableAccount}
    (h : (loadAddressLookupTables addresses).Runs s tr (.ok tables) s') : DistinctKeys tables := by
  have hnodup : ((firsts id [] addresses).map id).Nodup := nodup_keys_firsts [] addresses
  rw [List.map_id] at hnodup
  unfold DistinctKeys
  rwa [runs_loadAddressLookupTables h]

theorem maintains_loadAddressLookupTable {I : σ → Prop} (address : Pubkey) :
    Proc.Maintains I (fun _ => True) (loadAddressLookupTable address) :=
  .bind (.ask trivial) fun _ => .bind (.ofResult _) fun _ => .bind (.ofResult _) fun _ =>
    .ofResult _

/-- Loading leaves the state alone. -/
theorem maintains_loadUnseen {I : σ → Prop} (seen addresses : List Pubkey) :
    Proc.Maintains I (fun _ => True) (loadUnseen seen addresses) := by
  induction addresses generalizing seen with
  | nil => exact .pure _
  | cons address addresses ih =>
    unfold loadUnseen
    by_cases hseen : address ∈ seen
    · rw [if_pos hseen]
      exact ih seen
    · rw [if_neg hseen]
      exact .bind (maintains_loadAddressLookupTable address) fun _ => .bind (ih _) fun _ =>
        .pure _

theorem state_loadAddressLookupTables {addresses : List Pubkey} {s s' : σ} {tr : Trace Answer}
    {r : TradeResult (List AddressLookupTableAccount)}
    (h : (loadAddressLookupTables addresses).Runs s tr r s') : s' = s :=
  (maintains_loadUnseen (I := (· = s)) [] addresses s tr r s' rfl h).1

end Loading

/-! ## 2.  The client's tables -/

section Calls

variable [Sdk]

/-- A call of a method of the client: one of the three that set its shared tables, whatever the
node answers, or another one. -/
inductive TablesCall (client : TradingClient) : TradingClient → Prop
  | given (tables : List AddressLookupTableAccount) :
      TablesCall client (client.withSharedLookupTables tables)
  | loaded {addresses : List Pubkey} {tr : Trace Answer} {client' : TradingClient} :
      (client.withSharedLookupTableAddresses addresses).Runs () tr (.ok client') () →
      TablesCall client client'
  | refreshed {tr : Trace Answer} {r : TradeResult Unit} {client' : TradingClient} :
      TradingClient.refreshSharedLookupTables.Runs client tr r client' → TablesCall client client'
  | other {client' : TradingClient} :
      client'.sharedLookupTables = client.sharedLookupTables → TablesCall client client'

namespace TradingClient

/-- A client after any calls. -/
def Reachable (client : TradingClient) : Prop :=
  Relation.ReflTransGen TablesCall new client

theorem runs_withSharedLookupTableAddresses {client client' : TradingClient}
    {addresses : List Pubkey} {tr : Trace Answer}
    (h : (client.withSharedLookupTableAddresses addresses).Runs () tr (.ok client') ()) :
    DistinctKeys client'.sharedLookupTables := by
  obtain ⟨tables, _, _, _, -, hload, h₁⟩ := Proc.runs_bind_ok.mp h
  obtain ⟨-, hclient, -⟩ := Proc.runs_pure.mp h₁
  rw [Except.ok.inj hclient]
  exact distinctKeys_loaded hload

/-- A refresh fails with nothing changed, or puts the tables of its addresses in place. -/
theorem runs_refreshSharedLookupTables {client client' : TradingClient} {tr : Trace Answer}
    {r : TradeResult Unit} (h : refreshSharedLookupTables.Runs client tr r client') :
    ((∃ e, r = .error e) ∧ client' = client) ∨
      ∃ tables, r = .ok () ∧ client' = { client with sharedLookupTables := tables } ∧
        tables.map AddressLookupTableAccount.key =
          firsts id [] (client.sharedLookupTables.map AddressLookupTableAccount.key) := by
  unfold refreshSharedLookupTables at h
  rw [Proc.runs_read_bind] at h
  rcases Proc.runs_bind.mp h with ⟨e, hr, h₁⟩ | ⟨tables, between, _, _, -, hload, h₁⟩
  · exact Or.inl ⟨⟨e, hr⟩, state_loadAddressLookupTables h₁⟩
  · obtain ⟨-, hr, hclient⟩ := Proc.runs_update.mp h₁
    obtain rfl := state_loadAddressLookupTables hload
    exact Or.inr ⟨tables, hr, hclient, runs_loadAddressLookupTables hload⟩

/-- A refresh keeps the keys of distinct tables, in their order. -/
theorem refresh_keeps_keys {client client' : TradingClient} {tr : Trace Answer}
    {r : TradeResult Unit} (hdistinct : DistinctKeys client.sharedLookupTables)
    (h : refreshSharedLookupTables.Runs client tr r client') :
    client'.sharedLookupTables.map AddressLookupTableAccount.key =
      client.sharedLookupTables.map AddressLookupTableAccount.key := by
  rcases runs_refreshSharedLookupTables h with ⟨-, rfl⟩ | ⟨tables, -, rfl, hkeys⟩
  · rfl
  · rw [hkeys]
    refine firsts_eq_self ?_ (by simp)
    rwa [List.map_id]

end TradingClient

/-- One call keeps the tables distinct. -/
theorem TablesCall.distinctKeys {client client' : TradingClient} (h : TablesCall client client')
    (hdistinct : DistinctKeys client.sharedLookupTables) :
    DistinctKeys client'.sharedLookupTables := by
  cases h with
  | given tables => exact distinctKeys_mergeLookupTables _ _
  | loaded hrun => exact TradingClient.runs_withSharedLookupTableAddresses hrun
  | refreshed hrun =>
    unfold DistinctKeys
    rwa [TradingClient.refresh_keeps_keys hdistinct hrun]
  | other hsame => rwa [hsame]

/-- Any calls keep them distinct. -/
theorem TradingClient.Reachable.distinctKeys {client : TradingClient} (h : client.Reachable) :
    DistinctKeys client.sharedLookupTables := by
  induction h with
  | refl => exact List.nodup_nil
  | tail _ hcall ih => exact hcall.distinctKeys ih

end Calls

/-! ## 3.  The tables of a submission -/

section Submission

variable [Sdk]

/-- Every submission builds with the tables of the route, the caller and the client, and releases
only what it built so. -/
theorem TradingClient.runs_submitPrepared {client : TradingClient} {trade : Trade}
    {prepared : PreparedSwap} {submitter : Submitter} {fee : UInt64}
    {tables : List AddressLookupTableAccount} {tr : Trace Answer} {r : TradeResult SwapResult}
    (h : (client.submitPrepared trade prepared submitter fee tables).Runs () tr r ()) :
    ∃ built rest r', tr = built ++ rest ∧
      (buildTransaction (SwapSigners.payer { sponsor := client.sponsorFor trade } trade.wallet)
        ⟨prepared.instructions, mergeLookupTables prepared.lookupTables
          (mergeLookupTables tables client.sharedLookupTables), prepared.format⟩ fee
        submitter).Runs () built r' () ∧
      ((∃ e, r = .error e) ∧ (∀ e ∈ tr, e.query.Harmless) ∨
        ∃ tx₀ tx₁ tx₂ sponsorshipFee priced signed submitted, r' = .ok tx₀ ∧
          rest = priced ++ (signed ++ submitted) ∧
          ReachedSigning prepared { sponsor := client.sponsorFor trade } submitter trade fee
            (mergeLookupTables tables client.sharedLookupTables) tx₀ tx₁ tx₂ sponsorshipFee built
            priced signed submitted r) := by
  unfold submitPrepared at h
  rcases runs_submitSwap h with hfailed |
    ⟨tx₀, tx₁, tx₂, charge, built, priced, signed, submitted, htr, hreached⟩
  · unfold submitSwap at h
    rcases Proc.runs_bind.mp h with ⟨e, -, h₁⟩ | ⟨tx, _, built, rest, htr, hbuilt, -⟩
    · exact ⟨tr, [], _, (List.append_nil tr).symm, h₁, Or.inl hfailed⟩
    · exact ⟨built, rest, _, htr, hbuilt, Or.inl hfailed⟩
  · exact ⟨built, _, .ok tx₀, htr, hreached.build,
      Or.inr ⟨tx₀, tx₁, tx₂, charge, priced, signed, submitted, rfl, rfl, hreached⟩⟩

/-- A V0 message is compiled against the tables of its route. -/
theorem runs_buildTransaction_tables {payer : Pubkey} {route : Route} {fee : UInt64}
    {submitter : Submitter} {s s' : σ} {tr : Trace Answer} {tx : VersionedTransaction}
    (hformat : route.format = .v0)
    (h : (buildTransaction payer route fee submitter).Runs s tr (.ok tx) s') :
    ∃ ixs blockhash m, Sdk.compileV0 payer ixs route.lookupTables blockhash = .ok m ∧
      tx.message = .v0 m := by
  obtain ⟨_, kept, _, blockhash, message, _, _, -, -, -, -, hmessage, rfl⟩ :=
    runs_buildTransaction_steps h
  unfold compileRoute at hmessage
  simp only [hformat] at hmessage
  obtain ⟨m, hm, rfl⟩ := compileV0_eq_ok hmessage
  exact ⟨_, blockhash, m, hm, rfl⟩

/-- **Shared lookup tables stay well formed**: distinct after any calls, unchanged by a refresh
that fails and with the same keys after one that succeeds.  Merging keeps the first table of each
key, in order; it is idempotent and associative.  A submission takes the table of a key from the
route, else from the caller, else from the client, and what it prices, signs and submits is what it
built with these tables. -/
theorem shared_tables_well_formed :
    (∀ client : TradingClient, client.Reachable → DistinctKeys client.sharedLookupTables) ∧
    (∀ (client client' : TradingClient) (tr : Trace Answer) (r : TradeResult Unit),
      TradingClient.refreshSharedLookupTables.Runs client tr r client' →
      ((∃ e, r = .error e) → client' = client) ∧
      (client.Reachable → client'.sharedLookupTables.map AddressLookupTableAccount.key =
        client.sharedLookupTables.map AddressLookupTableAccount.key)) ∧
    (∀ xs ys : List AddressLookupTableAccount, mergeLookupTables xs ys =
      ((xs ++ ys).map AddressLookupTableAccount.key).eraseDups.filterMap fun key =>
        tableFor key (xs ++ ys)) ∧
    (∀ xs : List AddressLookupTableAccount, mergeLookupTables xs xs = mergeLookupTables xs [] ∧
      (DistinctKeys xs → mergeLookupTables xs xs = xs)) ∧
    (∀ xs ys zs : List AddressLookupTableAccount,
      mergeLookupTables xs (mergeLookupTables ys zs) =
        mergeLookupTables (mergeLookupTables xs ys) zs) ∧
    ∀ (client : TradingClient) (trade : Trade) (prepared : PreparedSwap) (submitter : Submitter)
      (fee : UInt64) (tables : List AddressLookupTableAccount) (tr : Trace Answer)
      (r : TradeResult SwapResult),
      (client.submitPrepared trade prepared submitter fee tables).Runs () tr r () →
      ∃ payer alts built rest r', tr = built ++ rest ∧
        (buildTransaction payer ⟨prepared.instructions, alts, prepared.format⟩ fee
          submitter).Runs () built r' () ∧
        (prepared.format = .v0 → ∀ tx, r' = .ok tx → ∃ ixs blockhash m,
          Sdk.compileV0 payer ixs alts blockhash = .ok m ∧ tx.message = .v0 m) ∧
        DistinctKeys alts ∧
        (∀ key, tableFor key alts = (tableFor key prepared.lookupTables).or
          ((tableFor key tables).or (tableFor key client.sharedLookupTables))) ∧
        ((∃ e, r = .error e) ∧ (∀ e ∈ tr, e.query.Harmless) ∨
          ∃ tx₀ tx₁ tx₂ sponsorshipFee priced signed submitted, r' = .ok tx₀ ∧
            rest = priced ++ (signed ++ submitted) ∧
            ReachedSigning prepared { sponsor := client.sponsorFor trade } submitter trade fee
              (mergeLookupTables tables client.sharedLookupTables) tx₀ tx₁ tx₂ sponsorshipFee built
              priced signed submitted r) := by
  refine ⟨fun client h => h.distinctKeys, ?_, ?_, ?_, ?_, ?_⟩
  · intro client client' tr r hrun
    refine ⟨fun ⟨e, he⟩ => ?_, fun h => TradingClient.refresh_keeps_keys h.distinctKeys hrun⟩
    rcases TradingClient.runs_refreshSharedLookupTables hrun with ⟨-, hsame⟩ | ⟨_, hok, -⟩
    · exact hsame
    · exact nomatch he.symm.trans hok
  · intro xs ys
    rw [mergeLookupTables_eq]
    exact firsts_eq_filterMap _
  · intro xs
    simp only [mergeLookupTables_eq, merge_self, true_and]
    exact merge_nil_of_nodup
  · intro xs ys zs
    simp only [mergeLookupTables_eq]
    exact merge_assoc xs ys zs
  · intro client trade prepared submitter fee tables tr r hrun
    obtain ⟨built, rest, r', htr, hbuilt, hreleased⟩ := TradingClient.runs_submitPrepared hrun
    refine ⟨_, _, built, rest, r', htr, hbuilt, ?_, distinctKeys_mergeLookupTables _ _, ?_,
      hreleased⟩
    · rintro hformat tx rfl
      exact runs_buildTransaction_tables hformat hbuilt
    · intro key
      rw [tableFor_mergeLookupTables, tableFor_mergeLookupTables]

end Submission

/-! ### A table that is refreshed -/

/-- The keys that stand one after another in the data of a table. -/
def tableKeys (data : Bytes) : List Pubkey :=
  (List.range (data.length / 32)).filterMap fun i =>
    let bytes := (data.drop (32 * i)).take 32
    if h : bytes.length = 32 then some ⟨bytes, h⟩ else none

/-- The layout of a lookup table: its kind, two slots, other fields up to 56 bytes, its keys. -/
def deserializeTable (data : Bytes) : Except String LookupTableState :=
  if data.length < 56 ∨ data.take 4 ≠ le32 1 then .error "invalid account data for instruction"
  else .ok {
    deactivationSlot := UInt64.ofNat (ofLeBytes ((data.drop 4).take 8))
    lastExtendedSlot := UInt64.ofNat (ofLeBytes ((data.drop 12).take 8))
    addresses := tableKeys (data.drop 56) }

@[reducible] def tableSdk : Sdk :=
  { sampleSdk with deserializeLookupTable := deserializeTable }

/-- An active table that holds one key. -/
def tableData (key : Pubkey) : Bytes :=
  le32 1 ++ le64 18446744073709551615 ++ le64 5 ++ List.replicate 36 0 ++ key.bytes

/-- A node on which every account is a table. -/
def tableNode (_ : ℕ) (q : Query) : Answer q :=
  match q with
  | .getAccountWithCommitment _ _ =>
      .ok ⟨10, some ⟨lookupTableProgram, tableData usdcMint⟩⟩
  | q => silent q

/-- A client that was given two tables with one key and a third with another. -/
def tableClient : TradingClient :=
  TradingClient.new.withSharedLookupTables
    [⟨sampleUser, []⟩, ⟨sampleMint, []⟩, ⟨sampleUser, [usdcMint]⟩]

/-- A node on which a submission succeeds. -/
def submittingNode (i : ℕ) (q : Query) : Answer q :=
  match q with
  | .userSign _ _ => .ok sampleSignature
  | .submit _ => .ok sampleSignature
  | q => sampleNode i q

/-- The client's tables are refreshed; and a swap is submitted with a table of the caller that
the client holds another state of. -/
theorem shared_tables_well_formed_sample :
    let := tableSdk
    (∃ tr client', TradingClient.refreshSharedLookupTables.Runs tableClient tr (.ok ()) client' ∧
      client'.sharedLookupTables.map AddressLookupTableAccount.key = [sampleUser, sampleMint] ∧
      DistinctKeys client'.sharedLookupTables) ∧
    ∃ tr result, (tableClient.submitPrepared sampleTrade sampleRoute ⟨none⟩ 5000
        [⟨sampleMint, [usdcMint]⟩]).Runs () tr (.ok result) () ∧
      ∃ payer alts built rest tx, tr = built ++ rest ∧
        (buildTransaction payer ⟨sampleRoute.instructions, alts, sampleRoute.format⟩ 5000
          ⟨none⟩).Runs () built (.ok tx) () ∧
        DistinctKeys alts ∧ tableFor sampleMint alts = some ⟨sampleMint, [usdcMint]⟩ ∧
        ∃ tx' answer, (⟨.submit tx', answer⟩ : Event Answer) ∈ rest := by
  intro sdk
  obtain ⟨hdistinct, hrefresh, -, -, -, hsubmits⟩ := shared_tables_well_formed
  constructor
  · obtain ⟨tr, _, client', hrun⟩ := Proc.runs_ok_of_exec tableNode (fun _ => 0)
      TradingClient.refreshSharedLookupTables tableClient (by decide +kernel)
    have hreachable : tableClient.Reachable := .single (.given _)
    refine ⟨tr, client', hrun, ?_, hdistinct client' (hreachable.tail (.refreshed hrun))⟩
    rw [(hrefresh _ _ _ _ hrun).2 hreachable]
    decide
  · obtain ⟨tr, result, _, hrun⟩ := Proc.runs_ok_of_exec submittingNode (fun _ => 1)
      (tableClient.submitPrepared sampleTrade sampleRoute ⟨none⟩ 5000 [⟨sampleMint, [usdcMint]⟩])
      () (by decide +kernel)
    obtain ⟨payer, alts, built, rest, r', htr, hbuilt, -, hkeys, htables, hreleased⟩ :=
      hsubmits _ _ _ _ _ _ _ _ hrun
    have htable : tableFor sampleMint alts = some ⟨sampleMint, [usdcMint]⟩ := by
      rw [htables]
      decide +kernel
    rcases hreleased with ⟨⟨e, he⟩, -⟩ |
      ⟨tx₀, tx₁, tx₂, charge, priced, signed, submitted, rfl, rfl, hreached⟩
    · cases he
    · obtain ⟨c, -, ⟨e, -, he, -⟩ | ⟨-, answer, rfl, -⟩⟩ := hreached.sign
      · cases he
      · exact ⟨tr, result, hrun, payer, alts, built, _, tx₀, htr, hbuilt, hkeys, htable, tx₂,
          answer, by simp⟩

end Solana
end TradingAggregators
