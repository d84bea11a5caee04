/-
Quotes are honest about the trades they promise.

What a quote names, the trade that follows pays and charges; where there is no
quote there is no trade; and a trade that commits pays its minimum. On the
machine a short run leaves no width in the way of a quoted trade, if the tUSD it
moves has room where it goes.
-/
import CedraReflect.ShortRuns

set_option autoImplicit false
set_option linter.constructorNameAsVariable false
set_option synthInstance.maxSize 1000000000000

namespace CedraReflect

open reflection_token (is_excluded_store)

/-- The quotes of a state are honest about a trade of `n` units. A quote comes
true for every trader that is able, whose minimum it meets and who is in time,
on the machine too where there is room for what is paid; without a quote every
such trade aborts; and a trade that commits pays its minimum and charges what
was quoted. -/
structure Honest [NamedAddresses] (arithmetic : Arithmetic) (w : World)
    (quote : Move (ℕ × ℕ × ℕ)) (trade : Address → ℕ → ℕ → Call) (Able : Address → Prop)
    (Room : Address → ℕ → Prop) (Paid : World → Address → ℕ → ℕ → ℕ → Prop) : Prop where
  kept : ∀ out fee amm_fee v, Tx.Commits quote arithmetic w (out, fee, amm_fee) v →
    ∀ a limit deadline, Able a → limit ≤ out → w.now_seconds ≤ deadline →
      ∃ w', Tx.Performs (Room a out) (trade a limit deadline).run w () w'
        ∧ Paid w' a out fee amm_fee
  refused : (∃ reason, quote arithmetic w = .error reason) →
    ∀ a limit deadline, ∃ reason, (trade a limit deadline).run arithmetic w = .error reason
  settled : ∀ a limit deadline w', (trade a limit deadline).Commits arithmetic w w' →
    ∃ out fee amm_fee, Tx.Commits quote arithmetic w (out, fee, amm_fee) w ∧ limit ≤ out
      ∧ Paid w' a out fee amm_fee

/-- A trade whose every commit has a quote aborts where there is none. -/
theorem Tx.refused_of {α : Type} {r : Arithmetic} {w : World} {quote : Move α} {trade : Move Unit}
    (hquote : ∀ w', Tx.Commits trade r w () w' → ∃ q v, Tx.Commits quote r w q v)
    (h : ∃ reason, quote r w = .error reason) : ∃ reason, trade r w = .error reason := by
  obtain ⟨reason, hreason⟩ := h
  cases htrade : trade r w with
  | error e => exact ⟨e, rfl⟩
  | ok p =>
      obtain ⟨q, v, hq⟩ := hquote p.2 htrade
      unfold Tx.Commits at hq
      rw [hreason] at hq
      cases hq

/-! ## Room -/

section Room

variable [NamedAddresses] (fee_bps : ℕ) (w : World) (a : Address)

/-- After a short run, the seller's store has room for `out` units of tUSD. -/
def SellRoom (out : ℕ) : Prop :=
  ShortRun fee_bps w ∧ (insert a w.wallets).card < 2 ^ 64
    ∧ w.balance (.primary .tusd a) + out < 2 ^ 64

/-- After a short run, the reserve has room for the buyer's `n` units of tUSD, and
the buyer can be counted. -/
def BuyRoom (n : ℕ) : Prop :=
  ShortRun fee_bps w ∧ (insert a w.wallets).card < 2 ^ 64
    ∧ w.balance .usd_reserve + n < 2 ^ 64

end Room

section Honest

variable [NamedAddresses] {arithmetic : Arithmetic} {fee_bps : ℕ} {w : World} {e : LpEpoch}

theorem Launched.honest_sell (h : Launched e w) (fee_bps n : ℕ) :
    Honest arithmetic w (pool.quote_sell n) (fun a limit deadline => .sell_trfl a n limit deadline)
      (fun a => is_excluded_store w.reflection (.primary .trfl a) = false ∧ n ≤ w.effective a)
      (fun a out => SellRoom fee_bps w a out)
      (fun w' a out fee amm_fee => SellPaid w w' a n out fee amm_fee) := by
  -- A quote that the machine gives is the ideal one, and leaves the state.
  have hquote : ∀ {q v}, Tx.Commits (pool.quote_sell n) arithmetic w q v →
      SellQuoted e w n ∧ q = w.sellQuote n ∧ v = w := by
    intro q v hq
    have hs : Sound arithmetic (pool.quote_sell n) := inferInstance
    exact (Tx.commits_quote_sell h).mp (hs.commits hq)
  refine ⟨?_, ?_, ?_⟩
  · intro out fee amm_fee v hq a limit deadline hable hmin hdeadline
    obtain ⟨hquoted, hanswer, -⟩ := hquote hq
    obtain ⟨hout, hrest⟩ := Prod.mk.inj hanswer
    obtain ⟨hfee, hamm⟩ := Prod.mk.inj hrest
    -- Only a registered wallet has anything to sell.
    have hwallet : a ∈ w.wallets := by
      by_contra hne
      have hposition : a ∉ w.reflection.positions :=
        fun ha => hne (h.deployed.core.membership.position_wallet a ha)
      have hzero : w.effective a = 0 := by
        rw [World.effective, h.deployed.core.supply.raw_of_notMem hne,
          h.deployed.core.membership.pending_of_notMem hposition]
      have := hquoted.pos
      have := hable.2
      omega
    have hs : Sells e w a n limit deadline :=
      { deadline := hdeadline, live := hquoted.live, pos := hquoted.pos, max := hquoted.max
        input_cap := hquoted.input_cap, width := hquoted.width
        output_cap := hquoted.output_cap, output_pos := hquoted.output_pos
        min_output := hout ▸ hmin, eligible := hable.1, wallet := hwallet
        funds := by
          rw [World.raw_materializedAll, if_pos rfl]
          exact hable.2 }
    have hx := Tx.Commits.executes ((Tx.commits_sell_trfl h ()).mpr ⟨hs, rfl⟩)
      (Call.sell_trfl a n limit deadline).sound
    -- What the seller is paid is the one width that the accounting does not bound.
    refine ⟨w.sellSwapped e a n, hx.performs (fun hf => ?_) (fun hf => ?_), ?_⟩
    · obtain ⟨hshort, hcard, -⟩ := hf
      obtain ⟨k, hk, hw, he, -⟩ := hshort.launched h
      exact Tx.fits_sell_trfl h (hshort.roomy h hcard) hk hw he
    · obtain ⟨hshort, -, hroom⟩ := hf
      exact Tx.spacious_sell_trfl h hshort.reachable.usd_le (hout ▸ hroom)
    · rw [hout, hfee, hamm]
      exact h.sellPaid hs
  · -- A sell that commits has the quote: none is refused one and made.
    intro hrefused a limit deadline
    refine Tx.refused_of (fun w' hw' => ?_) hrefused
    obtain ⟨q, hq⟩ := Tx.quote_of_sell h hw'
    exact ⟨q, w, hq⟩
  · intro a limit deadline w' hw'
    obtain ⟨q, hq⟩ := Tx.quote_of_sell h hw'
    obtain ⟨-, hanswer, -⟩ := hquote hq
    obtain ⟨hs, hleft⟩ := (Tx.commits_sell_trfl h ()).mp hw'.ideal
    rw [hanswer] at hq
    refine ⟨_, _, _, hq, hs.min_output, ?_⟩
    rw [hleft]
    exact h.sellPaid hs

theorem Launched.honest_buy (h : Launched e w) (fee_bps n : ℕ) :
    Honest arithmetic w (pool.quote_buy n) (fun a limit deadline => .buy_trfl a n limit deadline)
      (fun a => is_excluded_store w.reflection (.primary .trfl a) = false
        ∧ n ≤ w.balance (.primary .tusd a))
      (fun a _ => BuyRoom fee_bps w a n)
      (fun w' a out fee amm_fee => BuyPaid w w' a n out fee amm_fee) := by
  -- A quote that the machine gives is the ideal one, and leaves the state.
  have hquote : ∀ {q v}, Tx.Commits (pool.quote_buy n) arithmetic w q v →
      BuyQuoted e w n ∧ q = w.buyQuote n ∧ v = w := by
    intro q v hq
    have hs : Sound arithmetic (pool.quote_buy n) := inferInstance
    exact (Tx.commits_quote_buy h).mp (hs.commits hq)
  refine ⟨?_, ?_, ?_⟩
  · intro out fee amm_fee v hq a limit deadline hable hmin hdeadline
    obtain ⟨hquoted, hanswer, -⟩ := hquote hq
    obtain ⟨hout, hrest⟩ := Prod.mk.inj hanswer
    obtain ⟨hfee, hamm⟩ := Prod.mk.inj hrest
    have hs : Buys e w a n limit deadline :=
      { deadline := hdeadline, live := hquoted.live, pos := hquoted.pos, max := hquoted.max
        input_cap := hquoted.input_cap, output_cap := hquoted.output_cap
        output_pos := hquoted.output_pos, min_output := hout ▸ hmin
        funds := hable.2, eligible := hable.1 }
    have hx := Tx.Commits.executes ((Tx.commits_buy_trfl h ()).mpr ⟨hs, rfl⟩)
      (Call.buy_trfl a n limit deadline).sound
    -- Here it is what the reserve is paid.
    refine ⟨w.buySwapped e a n, hx.performs (fun hf => ?_) (fun hf => ?_), ?_⟩
    · obtain ⟨hshort, hcard, -⟩ := hf
      obtain ⟨k, hk, hw, he, -⟩ := hshort.launched h
      exact Tx.fits_buy_trfl h (hshort.roomy h hcard) (Finset.mem_singleton_self a) hk hw he
    · obtain ⟨-, -, hroom⟩ := hf
      exact Tx.spacious_buy_trfl h hroom
    · rw [hout, hfee, hamm]
      exact h.buyPaid hs
  · -- So has a buy.
    intro hrefused a limit deadline
    refine Tx.refused_of (fun w' hw' => ?_) hrefused
    obtain ⟨q, hq⟩ := Tx.quote_of_buy h hw'
    exact ⟨q, w, hq⟩
  · intro a limit deadline w' hw'
    obtain ⟨q, hq⟩ := Tx.quote_of_buy h hw'
    obtain ⟨-, hanswer, -⟩ := hquote hq
    obtain ⟨hs, hleft⟩ := (Tx.commits_buy_trfl h ()).mp hw'.ideal
    rw [hanswer] at hq
    refine ⟨_, _, _, hq, hs.min_output, ?_⟩
    rw [hleft]
    exact h.buyPaid hs

/-- **Quotes are honest.** In every reachable live state, for every amount, in
both directions: the trade that follows pays and charges exactly the quote, and
none commits without one. After a short run of the machine no width stops the
trade, if the tUSD it pays has room where it goes. -/
theorem quotes_honest (h : Reachable arithmetic fee_bps w) (hlive : w.reflection.lifecycle = .LIVE)
    (n : ℕ) :
    Honest arithmetic w (pool.quote_sell n) (fun a limit deadline => .sell_trfl a n limit deadline)
        (fun a => is_excluded_store w.reflection (.primary .trfl a) = false ∧ n ≤ w.effective a)
        (fun a out => SellRoom fee_bps w a out)
        (fun w' a out fee amm_fee => SellPaid w w' a n out fee amm_fee)
      ∧ Honest arithmetic w (pool.quote_buy n)
        (fun a limit deadline => .buy_trfl a n limit deadline)
        (fun a => is_excluded_store w.reflection (.primary .trfl a) = false
          ∧ n ≤ w.balance (.primary .tusd a))
        (fun a _ => BuyRoom fee_bps w a n)
        (fun w' a out fee amm_fee => BuyPaid w w' a n out fee amm_fee) := by
  obtain ⟨e, hl⟩ := h.launched (by rw [hlive]; simp)
  exact ⟨hl.honest_sell fee_bps n, hl.honest_buy fee_bps n⟩

end Honest

open Sample in
/-- A quote of the sample, kept on the machine. -/
theorem quotes_honest_traded : ∃ w out fee amm_fee w', traded = some w
    ∧ Tx.Commits (pool.quote_sell 1_000_000) .machine w (out, fee, amm_fee) w
    ∧ Tx.Commits (Call.sell_trfl (.account 9) 1_000_000 out 0).run .machine w () w'
    ∧ SellPaid w w' (.account 9) 1_000_000 out fee amm_fee := by
  have hable : (traded.map fun w => decide (
      is_excluded_store w.reflection (.primary .trfl (.account 9)) = false
        ∧ 1_000_000 ≤ w.effective (.account 9) ∧ w.now_seconds ≤ 0
        ∧ w.custody.registered_wallet_count < 2 ^ 64 - 1
        ∧ w.balance (.primary .tusd (.account 9)) < 2 ^ 63)) = some true := by
    decide +kernel
  have hquote : (traded.map fun w =>
      match pool.quote_sell 1_000_000 .machine w with
      | .ok p => decide (p.1.1 < 2 ^ 63)
      | .error _ => false) = some true := by
    decide +kernel
  obtain ⟨w, hw⟩ := exists_traded
  have hshort := shortRun_traded hw
  have hreachable := reachable_traded hw
  rw [hw, Option.map_some] at hable hquote
  obtain ⟨heligible, hfunds, hnow, hcount, hheld⟩ := of_decide_eq_true (Option.some.inj hable)
  have hcard : (insert (.account 9) w.wallets).card < 2 ^ 64 :=
    hreachable.core.card_insert_lt hcount
  have hhonest := (quotes_honest hreachable (live_traded hw) 1_000_000).1
  cases hq : pool.quote_sell 1_000_000 .machine w with
  | error reason =>
      rw [hq] at hquote
      cases hquote
  | ok p =>
      obtain ⟨⟨out, fee, amm_fee⟩, v⟩ := p
      rw [hq] at hquote
      have hout : out < 2 ^ 63 := of_decide_eq_true (Option.some.inj hquote)
      obtain ⟨w', hperforms, hpaid⟩ := hhonest.kept out fee amm_fee v hq (.account 9) out 0
        ⟨heligible, hfunds⟩ le_rfl hnow
      obtain ⟨e, hl⟩ := hreachable.launched (by rw [live_traded hw]; simp)
      have hv : v = w :=
        ((Tx.commits_quote_sell hl).mp ((inferInstance :
          Sound .machine (pool.quote_sell 1_000_000)).commits hq)).2.2
      rw [hv] at hq
      exact ⟨w, out, fee, amm_fee, w', hw, hq,
        hperforms.commits ⟨hshort, hcard, by omega⟩, hpaid⟩

end CedraReflect
