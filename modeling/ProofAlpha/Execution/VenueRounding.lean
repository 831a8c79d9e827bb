/-
What a translated order keeps of the requested one.

A translation that passes has rules with positive increments, so quantity and price
are positive multiples of them (`translate_sound`). The price is rounded downwards
whatever the side; for a sell that is below the requested limit unless the limit is
on the grid (`price_kept_iff`).
-/
import ProofAlpha.Execution.VenueTranslator

set_option autoImplicit false

namespace ProofAlpha.Execution

open ProofAlpha.Lib

section Rounding

variable {K : Type} [Field K] [LinearOrder K] [FloorRing K] [IsStrictOrderedRing K]

/-! ## Rounding down -/

theorem round_down_of_nonneg {value increment : K} (hvalue : 0 ≤ value) (hinc : 0 < increment) :
    round_down_to_increment value increment = (⌊value / increment⌋ : K) * increment := by
  rw [round_down_to_increment, if_neg (not_le.mpr hinc), pyInt,
    if_pos (div_nonneg hvalue hinc.le)]

/-- Rounding down does not exceed the value. -/
theorem round_down_le {value : K} (hvalue : 0 ≤ value) (increment : K) :
    round_down_to_increment value increment ≤ value := by
  by_cases hinc : 0 < increment
  · rw [round_down_of_nonneg hvalue hinc]
    exact (le_div_iff₀ hinc).mp (Int.floor_le _)
  · rw [round_down_to_increment, if_pos (not_lt.mp hinc)]

/-- It gives a multiple of the increment. -/
theorem round_down_multiple {value increment : K} (hvalue : 0 ≤ value) (hinc : 0 < increment) :
    ∃ n : ℕ, round_down_to_increment value increment = n * increment := by
  have hfloor : 0 ≤ ⌊value / increment⌋ := Int.floor_nonneg.mpr (div_nonneg hvalue hinc.le)
  refine ⟨⌊value / increment⌋.toNat, ?_⟩
  rw [round_down_of_nonneg hvalue hinc, ← Int.cast_natCast, Int.toNat_of_nonneg hfloor]

/-- A multiple of the increment is not rounded. -/
theorem round_down_of_multiple {value increment : K} (hvalue : 0 ≤ value) (hinc : 0 < increment)
    {n : ℤ} (hn : value = n * increment) : round_down_to_increment value increment = value := by
  rw [round_down_of_nonneg hvalue hinc, hn, mul_div_cancel_right₀ _ hinc.ne', Int.floor_intCast]

/-- Only a multiple of the increment is not rounded below. -/
theorem le_round_down_iff {value increment : K} (hvalue : 0 ≤ value) (hinc : 0 < increment) :
    value ≤ round_down_to_increment value increment ↔ ∃ n : ℤ, value = n * increment := by
  constructor
  · intro hle
    obtain ⟨n, hn⟩ := round_down_multiple hvalue hinc
    refine ⟨n, ?_⟩
    rw [Int.cast_natCast, ← hn]
    exact le_antisymm hle (round_down_le hvalue increment)
  · rintro ⟨n, hn⟩
    exact (round_down_of_multiple hvalue hinc hn).ge

/-! ## Floats -/

omit [FloorRing K] [IsStrictOrderedRing K] in
@[simp] theorem positive_finite_of {x : K} (hx : 0 < x) :
    positive_finite (PyFloat.of x) = some x := by
  rw [positive_finite, PyFloat.finite_of, Option.filter_some, if_pos]
  exact decide_eq_true hx

omit [IsStrictOrderedRing K] in
/-- A positive quantity is rounded down to the step. -/
theorem rounded_quantity_of {rules : ExchangeSymbolRules K} {step requested : K}
    (hstep : rules.step_size = some step) (hrequested : 0 < requested) :
    rounded_quantity (some rules) (PyFloat.of requested)
      = round_down_to_increment requested step := by
  simp only [rounded_quantity, positive_finite_of hrequested, hstep, Option.getD_some]

omit [IsStrictOrderedRing K] in
/-- A positive price is rounded down to the tick. -/
theorem rounded_price_of {rules : ExchangeSymbolRules K} {tick limit : K}
    (htick : rules.tick_size = some tick) (hlimit : 0 < limit) :
    rounded_price (some rules) (PyFloat.of limit) = round_down_to_increment limit tick := by
  simp only [rounded_price, positive_finite_of hlimit, htick, Option.getD_some]

omit [FloorRing K] [IsStrictOrderedRing K] in
/-- A number that is not refused is positive and finite. -/
theorem number_reasons_eq_nil {field : String} {value : PyFloat K} :
    number_reasons field value = [] ↔ ∃ x, 0 < x ∧ value = PyFloat.of x := by
  unfold number_reasons
  cases hvalue : value.finite with
  | none =>
      constructor
      · intro h
        cases h
      · rintro ⟨x, -, rfl⟩
        rw [PyFloat.finite_of] at hvalue
        cases hvalue
  | some x =>
      rw [PyFloat.finite_eq_some] at hvalue
      dsimp only
      rw [reason_if_eq_nil, decide_eq_false_iff_not, not_le]
      constructor
      · exact fun hpos => ⟨x, hpos, hvalue⟩
      · rintro ⟨y, hpos, hy⟩
        rw [PyFloat.of_injective (hvalue.symm.trans hy)]
        exact hpos

/-! ## A translation that passes -/

/-- What a translation without a reason for rejection has found. -/
structure Translated (translator : BinanceUsdMTranslator K) (intent : InternalOrderIntent K)
    (args : TranslateArgs K) (rules : ExchangeSymbolRules K)
    (tick step min_notional requested limit : K) : Prop where
  lookup : translator.rules_cache.symbols.lookup intent.symbol = some rules
  tick_size : rules.tick_size = some tick ∧ 0 < tick
  step_size : rules.step_size = some step ∧ 0 < step
  min_size : rules.min_notional = some min_notional ∧ 0 < min_notional
  quantity : args.quantity = PyFloat.of requested ∧ 0 < requested
  price : args.price = PyFloat.of limit ∧ 0 < limit
  notional : min_notional
    ≤ round_down_to_increment requested step * round_down_to_increment limit tick
  reduce_only : intent.reduce_only_required = true →
    ∃ position, args.current_position_notional = some position ∧
      round_down_to_increment requested step * round_down_to_increment limit tick
        ≤ position + 1 / 10 ^ 9
  close : args.close_position = true → intent.reduce_only_required = true

omit [FloorRing K] [IsStrictOrderedRing K] in
/-- A rule that is not missing. -/
theorem rule_of_getD_pos {rule : Option K} (h : ¬ rule.getD 0 ≤ 0) :
    ∃ x, rule = some x ∧ 0 < x := by
  cases rule with
  | none => exact absurd le_rfl h
  | some x => exact ⟨x, rfl, not_le.mp h⟩

omit [IsStrictOrderedRing K] in
theorem translated_of_reasons {translator : BinanceUsdMTranslator K}
    {intent : InternalOrderIntent K} {args : TranslateArgs K}
    (h : translate_reasons translator intent args = []) :
    ∃ rules tick step min_notional requested limit,
      Translated translator intent args rules tick step min_notional requested limit := by
  unfold translate_reasons at h
  simp only [List.append_eq_nil_iff, reason_if_eq_nil, decide_eq_false_iff_not] at h
  -- one fact for each group of reasons, in their order
  obtain ⟨⟨⟨⟨⟨⟨⟨⟨-, hquantity⟩, hprice⟩, hrules⟩, -⟩, -⟩, hreduce⟩, hclose⟩, -⟩ := h
  obtain ⟨requested, hrequested, hquantity⟩ := number_reasons_eq_nil.mp hquantity
  obtain ⟨limit, hlimit, hprice⟩ := number_reasons_eq_nil.mp hprice
  cases hlookup : translator.rules_cache.symbols.lookup intent.symbol with
  | none =>
      -- a symbol without rules is refused
      rw [hlookup] at hrules
      cases hrules
  | some rules =>
      rw [hlookup] at hrules hreduce
      simp only [rules_reasons, rule_rejections, List.append_eq_nil_iff, reason_if_eq_nil,
        decide_eq_false_iff_not] at hrules
      obtain ⟨⟨⟨⟨⟨-, htick⟩, hstep⟩, hmin⟩, hnotional⟩, -⟩ := hrules
      obtain ⟨tick, htick⟩ := rule_of_getD_pos htick
      obtain ⟨step, hstep⟩ := rule_of_getD_pos hstep
      obtain ⟨min_notional, hmin⟩ := rule_of_getD_pos hmin
      have hrounded : rounded_quantity (some rules) args.quantity
            * rounded_price (some rules) args.price
          = round_down_to_increment requested step * round_down_to_increment limit tick := by
        rw [hquantity, hprice, rounded_quantity_of hstep.1 hrequested,
          rounded_price_of htick.1 hlimit]
      rw [hrounded] at hnotional hreduce
      rw [hmin.1, Option.getD_some, not_lt] at hnotional
      refine ⟨rules, tick, step, min_notional, requested, limit, hlookup, htick, hstep, hmin,
        ⟨hquantity, hrequested⟩, ⟨hprice, hlimit⟩, hnotional, ?_, ?_⟩
      · intro hrequired
        rw [if_pos hrequired] at hreduce
        unfold reduce_only_reasons at hreduce
        cases hposition : args.current_position_notional with
        | none =>
            rw [hposition] at hreduce
            cases hreduce
        | some position =>
            rw [hposition] at hreduce
            dsimp only at hreduce
            split_ifs at hreduce
            rw [reason_if_eq_nil, decide_eq_false_iff_not, not_lt, reduce_only_tolerance] at hreduce
            exact ⟨position, rfl, hreduce⟩
      · intro hclosing
        by_contra hrequired
        exact hclose ⟨hclosing, Or.inl hrequired⟩

section Passing

variable {translator : BinanceUsdMTranslator K} {intent : InternalOrderIntent K}
  {args : TranslateArgs K} {rules : ExchangeSymbolRules K}
  {tick step min_notional requested limit : K}

omit [IsStrictOrderedRing K] in
/-- The two roundings of a translation that passes. -/
theorem Translated.rounded
    (h : Translated translator intent args rules tick step min_notional requested limit) :
    rounded_quantity (some rules) args.quantity = round_down_to_increment requested step
      ∧ rounded_price (some rules) args.price = round_down_to_increment limit tick := by
  rw [h.quantity.1, h.price.1]
  exact ⟨rounded_quantity_of h.step_size.1 h.quantity.2, rounded_price_of h.tick_size.1 h.price.2⟩

/-- Neither is rounded to zero, as the minimum is positive. -/
theorem Translated.multiples
    (h : Translated translator intent args rules tick step min_notional requested limit) :
    (∃ n : ℕ, 0 < n ∧ round_down_to_increment requested step = n * step)
      ∧ ∃ k : ℕ, 0 < k ∧ round_down_to_increment limit tick = k * tick := by
  obtain ⟨n, hn⟩ := round_down_multiple h.quantity.2.le h.step_size.2
  obtain ⟨k, hk⟩ := round_down_multiple h.price.2.le h.tick_size.2
  have hnotional := lt_of_lt_of_le h.min_size.2 h.notional
  refine ⟨⟨n, Nat.pos_iff_ne_zero.mpr ?_, hn⟩, k, Nat.pos_iff_ne_zero.mpr ?_, hk⟩
  · -- a quantity of zero would have a notional of zero
    rintro rfl
    rw [hn, Nat.cast_zero, zero_mul, zero_mul] at hnotional
    exact lt_irrefl 0 hnotional
  · rintro rfl
    rw [hk, Nat.cast_zero, zero_mul, mul_zero] at hnotional
    exact lt_irrefl 0 hnotional

theorem Translated.positive
    (h : Translated translator intent args rules tick step min_notional requested limit) :
    0 < round_down_to_increment requested step ∧ 0 < round_down_to_increment limit tick := by
  obtain ⟨⟨n, hn, hquantity⟩, k, hk, hprice⟩ := h.multiples
  rw [hquantity, hprice]
  exact ⟨mul_pos (Nat.cast_pos.mpr hn) h.step_size.2, mul_pos (Nat.cast_pos.mpr hk) h.tick_size.2⟩

/-- The order of a translation that passes. -/
theorem Translated.order
    (h : Translated translator intent args rules tick step min_notional requested limit)
    (env : OrderEnv K) :
    (translate env translator intent args).rounded_order.quantity
        = round_down_to_increment requested step
      ∧ (translate env translator intent args).rounded_order.price
        = some (round_down_to_increment limit tick)
      ∧ (translate env translator intent args).rounded_order.reduceOnly
        = intent.reduce_only_required := by
  simp only [translate, h.lookup, h.rounded.1, h.rounded.2, max_eq_left h.positive.1.le]
  cases hclosing : args.close_position with
  | false => exact ⟨rfl, rfl, rfl⟩
  | true => exact ⟨rfl, rfl, (h.close hclosing).symm⟩

/-- What is on the grid stays there when it is rounded again. -/
theorem Translated.idempotent
    (h : Translated translator intent args rules tick step min_notional requested limit) :
    round_down_to_increment (round_down_to_increment requested step) step
        = round_down_to_increment requested step
      ∧ round_down_to_increment (round_down_to_increment limit tick) tick
        = round_down_to_increment limit tick := by
  obtain ⟨⟨n, -, hquantity⟩, k, -, hprice⟩ := h.multiples
  constructor
  · refine round_down_of_multiple h.positive.1.le h.step_size.2 (n := n) ?_
    rw [hquantity, Int.cast_natCast]
  · refine round_down_of_multiple h.positive.2.le h.tick_size.2 (n := k) ?_
    rw [hprice, Int.cast_natCast]

/-- The translated order, translated again. -/
theorem Translated.again
    (h : Translated translator intent args rules tick step min_notional requested limit) :
    Translated translator intent
      { args with
        quantity := PyFloat.of (round_down_to_increment requested step)
        price := PyFloat.of (round_down_to_increment limit tick) }
      rules tick step min_notional (round_down_to_increment requested step)
      (round_down_to_increment limit tick) where
  lookup := h.lookup
  tick_size := h.tick_size
  step_size := h.step_size
  min_size := h.min_size
  quantity := ⟨rfl, h.positive.1⟩
  price := ⟨rfl, h.positive.2⟩
  notional := by
    rw [h.idempotent.1, h.idempotent.2]
    exact h.notional
  reduce_only := by
    rw [h.idempotent.1, h.idempotent.2]
    exact h.reduce_only
  close := h.close

omit [IsStrictOrderedRing K] in
/-- A translation passes if it has no reason not to. -/
theorem passed_iff {env : OrderEnv K} :
    (translate env translator intent args).passed = true
      ↔ translate_reasons translator intent args = [] := by
  simp only [translate, List.isEmpty_iff]

omit [IsStrictOrderedRing K] in
/-- The reasons depend on quantity and price through their own checks and the rounded
values. -/
theorem translate_reasons_congr {args' : TranslateArgs K}
    (hlookup : translator.rules_cache.symbols.lookup intent.symbol = some rules)
    (hquantity : number_reasons "quantity" args'.quantity = number_reasons "quantity" args.quantity)
    (hprice : number_reasons "price" args'.price = number_reasons "price" args.price)
    (hrounded : rounded_quantity (some rules) args'.quantity
      = rounded_quantity (some rules) args.quantity)
    (hlimit : rounded_price (some rules) args'.price = rounded_price (some rules) args.price)
    (hpassive : args'.passive = args.passive)
    (hclose : args'.close_position = args.close_position)
    (hposition : args'.current_position_notional = args.current_position_notional) :
    translate_reasons translator intent args' = translate_reasons translator intent args := by
  unfold translate_reasons
  dsimp only
  rw [hlookup, hquantity, hprice, hrounded, hlimit, hpassive, hclose, hposition]

theorem Translated.reasons_again
    (h : Translated translator intent args rules tick step min_notional requested limit)
    (hreasons : translate_reasons translator intent args = []) :
    translate_reasons translator intent
      { args with
        quantity := PyFloat.of (round_down_to_increment requested step)
        price := PyFloat.of (round_down_to_increment limit tick) } = [] := by
  have hnumber : ∀ field : String, ∀ x y : K, 0 < x → 0 < y →
      number_reasons field (PyFloat.of x) = number_reasons field (PyFloat.of y) := by
    intro field x y hx hy
    rw [number_reasons_eq_nil.mpr ⟨x, hx, rfl⟩, number_reasons_eq_nil.mpr ⟨y, hy, rfl⟩]
  have hquantity := hnumber "quantity" _ _ h.positive.1 h.quantity.2
  have hprice := hnumber "price" _ _ h.positive.2 h.price.2
  rw [← h.quantity.1] at hquantity
  rw [← h.price.1] at hprice
  -- the rounded values are those of the first translation, so its reasons are too
  have hrounded := h.again.rounded.1.trans (h.idempotent.1.trans h.rounded.1.symm)
  have hlimit := h.again.rounded.2.trans (h.idempotent.2.trans h.rounded.2.symm)
  exact (translate_reasons_congr h.lookup hquantity hprice hrounded hlimit rfl rfl rfl).trans
    hreasons

end Passing

/-- A translation that passes gives positive multiples of the increments, no more than
was requested and no less than the minimum; a reduce-only order exceeds the position by
the tolerance at most; and translating what was rounded changes nothing. -/
theorem translate_sound (env : OrderEnv K) {translator : BinanceUsdMTranslator K}
    {intent : InternalOrderIntent K} {args : TranslateArgs K}
    (hpassed : (translate env translator intent args).passed = true) :
    let order := (translate env translator intent args).rounded_order
    ∃ rules tick step min_notional requested price,
      translator.rules_cache.symbols.lookup intent.symbol = some rules
      ∧ rules.tick_size = some tick ∧ rules.step_size = some step
      ∧ rules.min_notional = some min_notional
      ∧ args.quantity = PyFloat.of requested ∧ order.price = some price
      ∧ (0 < step ∧ ∃ n : ℕ, 0 < n ∧ order.quantity = n * step)
      ∧ (0 < tick ∧ ∃ k : ℕ, 0 < k ∧ price = k * tick)
      ∧ order.quantity ≤ requested
      ∧ min_notional ≤ order.quantity * price
      ∧ (order.reduceOnly = true → ∃ position, args.current_position_notional = some position
        ∧ order.quantity * price ≤ position + 1 / 10 ^ 9)
      ∧ (let again := translate env translator intent
          { args with quantity := PyFloat.of order.quantity, price := PyFloat.of price }
        again.passed = true ∧ again.rounded_order.quantity = order.quantity
          ∧ again.rounded_order.price = some price) := by
  dsimp only
  rw [passed_iff] at hpassed
  obtain ⟨rules, tick, step, min_notional, requested, limit, h⟩ := translated_of_reasons hpassed
  obtain ⟨hquantity, hprice, hreduceOnly⟩ := h.order env
  obtain ⟨hquantity', hprice', -⟩ := h.again.order env
  rw [hquantity, hreduceOnly]
  rw [h.idempotent.1] at hquantity'
  rw [h.idempotent.2] at hprice'
  exact ⟨rules, tick, step, min_notional, requested, round_down_to_increment limit tick, h.lookup,
    h.tick_size.1, h.step_size.1, h.min_size.1, h.quantity.1, hprice,
    ⟨h.step_size.2, h.multiples.1⟩, ⟨h.tick_size.2, h.multiples.2⟩,
    round_down_le h.quantity.2.le step, h.notional, h.reduce_only,
    passed_iff.mpr (h.reasons_again hpassed), hquantity', hprice'⟩

/-- Five quarters at 100.05, reduced from a position of 200. -/
theorem translate_sound_sell_down :
    ∃ requested, PyFloat.of (5 / 4 : ℚ) = PyFloat.of requested
      ∧ (translate hashless_env btc_translator sell_down
        (sell_args (5 / 4) (10005 / 100) 200)).rounded_order.quantity ≤ requested := by
  have hpassed : (translate hashless_env btc_translator sell_down
      (sell_args (5 / 4) (10005 / 100) 200)).passed = true := by
    decide +kernel
  obtain ⟨rules, tick, step, min_notional, requested, price, -, -, -, -, hrequested, -, -, -, hle,
    -⟩ := translate_sound hashless_env hpassed
  exact ⟨requested, hrequested, hle⟩

/-- A reduce-only order of 100 passes on a position that is a little less. -/
theorem reduce_only_exceeds_within_tolerance :
    (translate hashless_env btc_translator sell_down
        (sell_args 1 100 (100 - 5 / 10 ^ 10))).passed = true
      ∧ (translate hashless_env btc_translator sell_down
          (sell_args 1 100 (100 - 5 / 10 ^ 10))).rounded_order.reduceOnly = true
      ∧ (translate hashless_env btc_translator sell_down
          (sell_args 1 100 (100 - 5 / 10 ^ 10))).rounded_order.quantity = 1
      ∧ (translate hashless_env btc_translator sell_down
          (sell_args 1 100 (100 - 5 / 10 ^ 10))).rounded_order.price = some 100 := by
  decide +kernel

/-! ## The price and the side -/

/-- A price that is no worse for its side than the requested one. -/
def NoWorse (side : String) (price requested : PyFloat K) : Prop :=
  (side = "BUY" → price.gt requested = false) ∧ (side = "SELL" → requested.gt price = false)

/-- A buy limit that is not negative; a sell limit that is not positive, or a number that
is not rounded, for want of a tick size or because it is a multiple of it. -/
def PriceKept (rules : Option (ExchangeSymbolRules K)) (side : String) (price : PyFloat K) : Prop :=
  (side = "BUY" → (PyFloat.of 0).gt price = false)
    ∧ (side = "SELL" → price.gt (PyFloat.of 0) = false
      ∨ ∃ limit, price = PyFloat.of limit
        ∧ ∀ tick, (rules.bind ExchangeSymbolRules.tick_size) = some tick → 0 < tick →
          ∃ n : ℤ, limit = n * tick)

omit [IsStrictOrderedRing K] in
/-- The price of the order, whether or not the translation passes. -/
theorem order_price (env : OrderEnv K) (translator : BinanceUsdMTranslator K)
    (intent : InternalOrderIntent K) (args : TranslateArgs K) :
    (translate env translator intent args).rounded_order.price
      = some (rounded_price (translator.rules_cache.symbols.lookup intent.symbol) args.price) := by
  unfold translate
  dsimp only
  split_ifs <;> rfl

theorem rounded_price_le {limit : K} (hlimit : 0 < limit)
    (rules : Option (ExchangeSymbolRules K)) :
    rounded_price rules (PyFloat.of limit) ≤ limit := by
  rw [rounded_price, positive_finite_of hlimit]
  cases rules with
  | none => exact le_rfl
  | some rules => exact round_down_le hlimit.le _

/-- A positive limit is not lowered exactly where it is not rounded. -/
theorem le_rounded_price_iff {limit : K} (hlimit : 0 < limit)
    (rules : Option (ExchangeSymbolRules K)) :
    limit ≤ rounded_price rules (PyFloat.of limit)
      ↔ ∀ tick, rules.bind ExchangeSymbolRules.tick_size = some tick → 0 < tick →
          ∃ n : ℤ, limit = n * tick := by
  rw [rounded_price, positive_finite_of hlimit]
  cases rules with
  | none => simp
  | some rules =>
      dsimp only
      rw [Option.bind_some]
      cases htick : rules.tick_size with
      | none => simp [round_down_to_increment]
      | some tick =>
          rw [Option.getD_some]
          by_cases hpos : 0 < tick
          · rw [le_round_down_iff hlimit.le hpos]
            constructor
            · rintro hgrid tick' h -
              rw [← Option.some_inj.mp h]
              exact hgrid
            · exact fun hgrid => hgrid tick rfl hpos
          · rw [round_down_to_increment, if_pos (not_lt.mp hpos)]
            simp only [le_refl, true_iff, Option.some.injEq]
            rintro tick' rfl hpos'
            exact absurd hpos' hpos

/-- The price of the translated order is no worse for its side than the requested limit
exactly where a buy limit is not negative and a positive sell limit is not rounded. -/
theorem price_kept_iff (env : OrderEnv K) (translator : BinanceUsdMTranslator K)
    (intent : InternalOrderIntent K) (args : TranslateArgs K) :
    (∃ price, (translate env translator intent args).rounded_order.price = some price
        ∧ NoWorse intent.side (PyFloat.of price) args.price)
      ↔ PriceKept (translator.rules_cache.symbols.lookup intent.symbol) intent.side args.price := by
  rw [order_price]
  simp only [Option.some.injEq, exists_eq_left']
  generalize translator.rules_cache.symbols.lookup intent.symbol = rules
  rw [NoWorse, PriceKept]
  cases hvalid : positive_finite args.price with
  | none =>
      -- an invalid price is replaced by zero
      have hzero : rounded_price rules args.price = 0 := by rw [rounded_price, hvalid]
      rw [hzero]
      refine and_congr_right fun _ => imp_congr_right fun _ => (or_iff_left_of_imp ?_).symm
      rintro ⟨limit, hlimit, -⟩
      rw [hlimit, PyFloat.gt_of, decide_eq_false_iff_not]
      intro hpos
      rw [hlimit, positive_finite_of hpos] at hvalid
      cases hvalid
  | some limit =>
      -- a buy is never raised; a sell is not lowered only where it is not rounded
      obtain ⟨hfinite, hpos⟩ := Option.filter_eq_some_iff.mp hvalid
      have hpos : 0 < limit := of_decide_eq_true hpos
      rw [PyFloat.finite_eq_some.mp hfinite]
      simp only [PyFloat.gt_of, decide_eq_false_iff_not, not_lt]
      refine and_congr (imp_congr_right fun _ => ?_) (imp_congr_right fun _ => ?_)
      · exact iff_of_true (rounded_price_le hpos rules) hpos.le
      · rw [le_rounded_price_iff hpos, or_iff_right (not_le.mpr hpos)]
        constructor
        · exact fun hgrid => ⟨limit, rfl, hgrid⟩
        · rintro ⟨limit', hlimit, hgrid⟩
          rw [PyFloat.of_injective hlimit]
          exact hgrid

/-- A sell at 100 is on the grid. -/
theorem price_kept_on_grid :
    ∃ price, (translate hashless_env btc_translator sell_down
        (sell_args 1 100 200)).rounded_order.price = some price
      ∧ NoWorse "SELL" (PyFloat.of price) (PyFloat.of 100) := by
  refine (price_kept_iff hashless_env btc_translator sell_down (sell_args 1 100 200)).mpr
    ⟨fun h => absurd h (by decide), fun _ => Or.inr ⟨100, rfl, ?_⟩⟩
  intro tick htick _
  have htenth : (btc_translator.rules_cache.symbols.lookup sell_down.symbol).bind
      ExchangeSymbolRules.tick_size = some (1 / 10) := by
    decide +kernel
  rw [Option.some_inj.mp (htick.symm.trans htenth)]
  exact ⟨1000, by norm_num⟩

/-- A sell at 100.05 is sent at 100. -/
theorem sell_price_rounded_below_limit :
    (translate hashless_env btc_translator sell_down
        (sell_args 1 (10005 / 100) 200)).passed = true
      ∧ (translate hashless_env btc_translator sell_down
          (sell_args 1 (10005 / 100) 200)).rounded_order.side = "SELL"
      ∧ (translate hashless_env btc_translator sell_down
          (sell_args 1 (10005 / 100) 200)).rounded_order.price = some 100 := by
  decide +kernel

end Rounding

end ProofAlpha.Execution
