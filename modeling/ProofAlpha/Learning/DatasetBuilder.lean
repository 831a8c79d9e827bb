/-
The learning dataset: `learning/dataset_builder.py`.

The fills are put into a dict by their order id, so the row of an order shows its last fill and
not their sum. `learning_rows_conserve_iff` says for which fills this is the same.
-/
import ProofAlpha.Lib.Checks
import ProofAlpha.Lib.PyDict
import ProofAlpha.Lib.PyJson
import ProofAlpha.Lib.PyMath

set_option autoImplicit false

namespace ProofAlpha.Learning

open ProofAlpha.Lib

/-- The arguments of `build_learning_dataset`. -/
structure LearningInputs (K : Type) where
  orders : List (JsonObject K)
  fills : List (JsonObject K)
  rejects : List (JsonObject K)
  paper_session_telemetry : List (JsonObject K)
  websocket_quality : JsonObject K
  book_depth : List (JsonObject K)
  spread_history : List K
  funding_history : List K
  portfolio_exposures : Dict String K
  artifact_performance : JsonObject K
  validation_history : List (JsonObject K)

/-- A row of the dataset. -/
structure LearningRow (K : Type) where
  order_id : String
  symbol : String
  side : String
  fill_price : K
  qty : K
  spread_bps : K
  slip_bps : K
  websocket_quality_score : K
  depth_notional : K
  avg_spread_bps : K
  avg_funding : K
  portfolio_exposure : K
  artifact_performance : JsonObject K
  validation_history_count : ℕ
  reject_count : ℕ

/-- `LearningDataset`. -/
structure LearningDataset (K : Type) where
  status : String
  rows : List (LearningRow K)
  direct_trading_change_allowed : Bool := false

section Build

variable {K : Type} [Field K] [LinearOrder K] (texts : PyTexts K)

omit [Field K] [LinearOrder K] in
/-- `str(row.get(key))`. -/
def row_text (row : JsonObject K) (key : String) : String :=
  py_str texts.composite_text (row.get key)

omit [Field K] [LinearOrder K] in
/-- `str(order.get(key, ""))`. -/
def order_text (order : JsonObject K) (key : String) : String :=
  py_str texts.composite_text (order.get_or key (.str ""))

omit [Field K] [LinearOrder K] in
/-- `{str(row.get(key)): row for row in rows}`. -/
def rows_by (key : String) (rows : List (JsonObject K)) : Dict String (JsonObject K) :=
  rows.foldl (fun table row => table.insert (row_text texts row key) row) ∅

omit [Field K] [LinearOrder K] in
/-- `_first_by_order`. -/
def first_by_order (rows : List (JsonObject K)) (order_id : String) : JsonObject K :=
  (rows.find? fun row => row_text texts row "order_id" = order_id).getD []

/-- `_mean`. -/
def mean [FloorRing K] (values : List K) : K :=
  if values.isEmpty then 0 else pyRound (values.sum / values.length) 12

/-- `float(row.get(key, 0.0) or 0.0)`. -/
def row_float (row : JsonObject K) (key : String) : Except String K :=
  float_or texts.parse_float row key 0

/-- The row of an order, with the dicts of the fills and of the book depth. -/
def learning_row [FloorRing K] (inputs : LearningInputs K)
    (fills_by_order depth_by_symbol : Dict String (JsonObject K)) (order : JsonObject K) :
    Except String (LearningRow K) := do
  let order_id := order_text texts order "order_id"
  let symbol := order_text texts order "symbol"
  let telemetry := first_by_order texts inputs.paper_session_telemetry order_id
  let fill := (fills_by_order.lookup order_id).getD []
  let depth := (depth_by_symbol.lookup symbol).getD []
  let fill_price ← row_float texts fill "fill_price"
  let qty ← row_float texts fill "qty"
  let spread_bps ← row_float texts telemetry "spread_bps"
  let slip_bps ← row_float texts telemetry "slip_bps"
  let websocket_quality_score ← row_float texts inputs.websocket_quality "score"
  let depth_notional ← row_float texts depth "depth_notional"
  .ok
    { order_id := order_id
      symbol := symbol
      side := order_text texts order "side"
      fill_price := fill_price
      qty := qty
      spread_bps := spread_bps
      slip_bps := slip_bps
      websocket_quality_score := websocket_quality_score
      depth_notional := depth_notional
      avg_spread_bps := mean inputs.spread_history
      avg_funding := mean inputs.funding_history
      portfolio_exposure := (inputs.portfolio_exposures.lookup symbol).getD 0
      artifact_performance := inputs.artifact_performance
      validation_history_count := inputs.validation_history.length
      reject_count := inputs.rejects.length }

/-- `build_learning_dataset`. -/
def build_learning_dataset [FloorRing K] (inputs : LearningInputs K) :
    Except String (LearningDataset K) := do
  let fills_by_order := rows_by texts "order_id" inputs.fills
  let depth_by_symbol := rows_by texts "symbol" inputs.book_depth
  let rows ← inputs.orders.mapM (learning_row texts inputs fills_by_order depth_by_symbol)
  .ok { status := if rows.isEmpty then "empty" else "ready", rows := rows }

end Build

/-! ## Rows of readable inputs -/

section Rows

variable {K : Type} [Field K] [LinearOrder K] (texts : PyTexts K)

/-- `float` takes the values of some keys. -/
def Readable (keys : List String) (row : JsonObject K) : Prop :=
  ∀ key ∈ keys, ∃ x, row_float texts row key = .ok x

/-- The numbers that the rows are made of can be read. -/
structure ReadableInputs (inputs : LearningInputs K) : Prop where
  fills : ∀ row ∈ inputs.fills, Readable texts ["fill_price", "qty"] row
  telemetry : ∀ row ∈ inputs.paper_session_telemetry, Readable texts ["spread_bps", "slip_bps"] row
  quality : Readable texts ["score"] inputs.websocket_quality
  depth : ∀ row ∈ inputs.book_depth, Readable texts ["depth_notional"] row

/-- The number that is read, 0 where it cannot be. -/
def row_value (row : JsonObject K) (key : String) : K :=
  match row_float texts row key with
  | .ok x => x
  | .error _ => 0

/-- The fills of an order. -/
def order_fills (fills : List (JsonObject K)) (order : JsonObject K) : List (JsonObject K) :=
  fills.filter fun fill => row_text texts fill "order_id" = order_text texts order "order_id"

/-- The fill that the row of an order shows. -/
def shown_fill (fills : List (JsonObject K)) (order : JsonObject K) : JsonObject K :=
  (order_fills texts fills order).getLast?.getD []

/-- The row of an order that shows a fill. -/
def row_of [FloorRing K] (inputs : LearningInputs K) (fill order : JsonObject K) : LearningRow K :=
  let order_id := order_text texts order "order_id"
  let symbol := order_text texts order "symbol"
  let telemetry := first_by_order texts inputs.paper_session_telemetry order_id
  let depth := ((rows_by texts "symbol" inputs.book_depth).lookup symbol).getD []
  { order_id := order_id
    symbol := symbol
    side := order_text texts order "side"
    fill_price := row_value texts fill "fill_price"
    qty := row_value texts fill "qty"
    spread_bps := row_value texts telemetry "spread_bps"
    slip_bps := row_value texts telemetry "slip_bps"
    websocket_quality_score := row_value texts inputs.websocket_quality "score"
    depth_notional := row_value texts depth "depth_notional"
    avg_spread_bps := mean inputs.spread_history
    avg_funding := mean inputs.funding_history
    portfolio_exposure := (inputs.portfolio_exposures.lookup symbol).getD 0
    artifact_performance := inputs.artifact_performance
    validation_history_count := inputs.validation_history.length
    reject_count := inputs.rejects.length }

/-- The dataset whose rows show the last of some fills. -/
def shown_dataset [FloorRing K] (inputs : LearningInputs K) (fills : List (JsonObject K)) :
    LearningDataset K where
  status := if inputs.orders.isEmpty then "empty" else "ready"
  rows := inputs.orders.map fun order => row_of texts inputs (shown_fill texts fills order) order

variable {texts}

theorem Readable.row_float_eq {keys : List String} {row : JsonObject K}
    (hrow : Readable texts keys row) {key : String} (hkey : key ∈ keys) :
    row_float texts row key = .ok (row_value texts row key) := by
  obtain ⟨x, hx⟩ := hrow key hkey
  rw [row_value, hx]

/-- A float is read as it is. -/
theorem row_float_of_float {row : JsonObject K} {key : String} {x : K}
    (hx : row.get_or key (.float 0) = .float x) : row_float texts row key = .ok x := by
  rw [row_float, float_or, hx]
  by_cases hzero : x = 0
  · rw [hzero]
    simp [truthy]
  · simp [truthy, hzero, float_or_none]

/-- A row that is not found reads as 0. -/
theorem readable_nil (keys : List String) : Readable texts keys [] :=
  fun _ _ => ⟨0, row_float_of_float rfl⟩

theorem readable_getD {keys : List String} {rows : List (JsonObject K)}
    (hrows : ∀ row ∈ rows, Readable texts keys row) {found : Option (JsonObject K)}
    (hfound : ∀ row, found = some row → row ∈ rows) : Readable texts keys (found.getD []) := by
  cases found with
  | none => exact readable_nil keys
  | some row => exact hrows row (hfound row rfl)

omit [Field K] [LinearOrder K] in
/-- A dict of rows shows the last row of a key. -/
theorem lookup_rows_by (key : String) (rows : List (JsonObject K)) (k : String) :
    (rows_by texts key rows).lookup k
      = (rows.filter fun row => row_text texts row key = k).getLast? := by
  rw [rows_by, Dict.lookup_foldl_insert (fun row => row_text texts row key) (fun row => row),
    Option.map_id']

/-- What a dict of readable rows shows can be read. -/
theorem readable_lookup {keys : List String} {rows : List (JsonObject K)}
    (hrows : ∀ row ∈ rows, Readable texts keys row) (key k : String) :
    Readable texts keys (((rows_by texts key rows).lookup k).getD []) := by
  apply readable_getD hrows
  intro row hrow
  rw [lookup_rows_by] at hrow
  exact (List.mem_filter.mp (List.mem_of_getLast? hrow)).1

variable [FloorRing K] {inputs : LearningInputs K}

/-- The row of an order shows its last fill. -/
theorem learning_row_eq (hinputs : ReadableInputs texts inputs) (order : JsonObject K) :
    learning_row texts inputs (rows_by texts "order_id" inputs.fills)
        (rows_by texts "symbol" inputs.book_depth) order
      = .ok (row_of texts inputs (shown_fill texts inputs.fills order) order) := by
  have hfill := readable_lookup hinputs.fills "order_id" (order_text texts order "order_id")
  have hdepth := readable_lookup hinputs.depth "symbol" (order_text texts order "symbol")
  have htelemetry : Readable texts ["spread_bps", "slip_bps"]
      (first_by_order texts inputs.paper_session_telemetry (order_text texts order "order_id")) :=
    readable_getD hinputs.telemetry fun row hrow => List.mem_of_find?_eq_some hrow
  have hshown : ((rows_by texts "order_id" inputs.fills).lookup
      (order_text texts order "order_id")).getD [] = shown_fill texts inputs.fills order := by
    rw [lookup_rows_by]
    rfl
  rw [hshown] at hfill
  unfold learning_row
  dsimp only
  rw [hshown, hfill.row_float_eq (by simp), hfill.row_float_eq (by simp),
    htelemetry.row_float_eq (by simp), htelemetry.row_float_eq (by simp),
    hinputs.quality.row_float_eq (by simp), hdepth.row_float_eq (by simp)]
  rfl

/-- The dataset of readable inputs. -/
theorem build_learning_dataset_eq (hinputs : ReadableInputs texts inputs) :
    build_learning_dataset texts inputs = .ok (shown_dataset texts inputs inputs.fills) := by
  unfold build_learning_dataset shown_dataset
  dsimp only
  rw [mapM_eq_ok_map fun order _ => learning_row_eq hinputs order, ok_bind, List.isEmpty_map]

end Rows

/-! ## Conservation of the fills -/

section Conservation

variable {K : Type} [Field K] [LinearOrder K] (texts : PyTexts K)

/-- The row shows the whole quantity of the fills, at the average price by quantity. -/
structure RowConserves (fills : List (JsonObject K)) (row : LearningRow K) : Prop where
  qty : row.qty = (fills.map fun fill => row_value texts fill "qty").sum
  fill_price : (fills.map fun fill => row_value texts fill "qty").sum ≠ 0 →
    row.fill_price
      = (fills.map fun fill => row_value texts fill "fill_price" * row_value texts fill "qty").sum
        / (fills.map fun fill => row_value texts fill "qty").sum

/-- Every order has one row, which conserves its fills. -/
def DatasetConserves (inputs : LearningInputs K) (dataset : LearningDataset K) : Prop :=
  List.Forall₂ (fun order row => row.order_id = order_text texts order "order_id"
    ∧ RowConserves texts (order_fills texts inputs.fills order) row) inputs.orders dataset.rows

/-- The order has one fill at most, or its fills are of no quantity and one price. -/
def SingleFill (fills : List (JsonObject K)) : Prop :=
  fills.length ≤ 1
    ∨ ∃ price, ∀ fill ∈ fills, row_value texts fill "qty" = 0
      ∧ row_value texts fill "fill_price" = price

variable {texts} {fills fills' : List (JsonObject K)} {order : JsonObject K}

omit [Field K] [LinearOrder K] in
theorem order_fills_perm (hperm : fills'.Perm fills) (order : JsonObject K) :
    (order_fills texts fills' order).Perm (order_fills texts fills order) := hperm.filter _

omit [Field K] [LinearOrder K] in
/-- The fills can come in an order in which a given one is the last of its order. -/
theorem exists_perm_shown_fill {fill : JsonObject K}
    (hfill : fill ∈ order_fills texts fills order) :
    ∃ fills', fills'.Perm fills ∧ shown_fill texts fills' order = fill := by
  obtain ⟨hmem, hkey⟩ := List.mem_filter.mp hfill
  obtain ⟨before, after, rfl⟩ := List.append_of_mem hmem
  refine ⟨before ++ after ++ [fill], ?_, ?_⟩
  · rw [List.append_assoc]
    exact (List.perm_append_singleton fill after).append_left before
  · rw [shown_fill, order_fills, List.filter_append, List.filter_singleton, hkey, cond_true,
      List.getLast?_concat]
    rfl

omit [Field K] [LinearOrder K] in
theorem shown_fill_nil (hnil : order_fills texts fills order = []) :
    shown_fill texts fills order = [] := by
  rw [shown_fill, hnil]
  rfl

omit [Field K] [LinearOrder K] in
theorem shown_fill_mem (hne : order_fills texts fills order ≠ []) :
    shown_fill texts fills order ∈ order_fills texts fills order := by
  rw [shown_fill, List.getLast?_eq_some_getLast hne]
  exact List.getLast_mem hne

theorem row_value_nil (key : String) : row_value texts [] key = 0 := by
  rw [row_value, row_float_of_float rfl]

/-- With a single fill, the order of the fills makes no difference to what is shown. -/
theorem SingleFill.shown_eq (hsingle : SingleFill texts (order_fills texts fills order))
    (hperm : fills'.Perm fills) :
    row_value texts (shown_fill texts fills' order) "qty"
        = row_value texts (shown_fill texts fills order) "qty"
      ∧ row_value texts (shown_fill texts fills' order) "fill_price"
        = row_value texts (shown_fill texts fills order) "fill_price" := by
  have hfills : (order_fills texts fills' order).Perm (order_fills texts fills order) :=
    order_fills_perm hperm order
  by_cases hnil : order_fills texts fills order = []
  · rw [hnil] at hfills
    rw [shown_fill_nil hnil, shown_fill_nil hfills.eq_nil]
    exact ⟨rfl, rfl⟩
  · have hmem := shown_fill_mem hnil
    have hmem' : shown_fill texts fills' order ∈ order_fills texts fills order :=
      hfills.mem_iff.mp (shown_fill_mem fun hnil' => hnil (hfills.symm.trans (hnil' ▸ .nil)).eq_nil)
    rcases hsingle with hone | ⟨price, hprice⟩
    · -- there is only one fill to show
      obtain ⟨fill, hfill⟩ := List.length_eq_one_iff.mp
        (le_antisymm hone (List.length_pos_of_ne_nil hnil))
      rw [hfill] at hmem hmem'
      rw [List.mem_singleton.mp hmem, List.mem_singleton.mp hmem']
      exact ⟨rfl, rfl⟩
    · obtain ⟨hqty, hshown⟩ := hprice _ hmem
      obtain ⟨hqty', hshown'⟩ := hprice _ hmem'
      exact ⟨hqty'.trans hqty.symm, hshown'.trans hshown.symm⟩

/-- A single fill is shown as it is. -/
theorem SingleFill.row_conserves [FloorRing K] {inputs : LearningInputs K}
    (hsingle : SingleFill texts (order_fills texts fills order)) :
    RowConserves texts (order_fills texts fills order)
      (row_of texts inputs (shown_fill texts fills order) order) := by
  by_cases hnil : order_fills texts fills order = []
  · rw [shown_fill_nil hnil, hnil]
    refine ⟨?_, fun hsum => absurd rfl hsum⟩
    exact row_value_nil "qty"
  · have hmem := shown_fill_mem hnil
    rcases hsingle with hone | ⟨price, hprice⟩
    · obtain ⟨fill, hfill⟩ := List.length_eq_one_iff.mp
        (le_antisymm hone (List.length_pos_of_ne_nil hnil))
      rw [hfill] at hmem ⊢
      rw [List.mem_singleton.mp hmem]
      refine ⟨?_, ?_⟩
      · rw [List.map_singleton, List.sum_singleton]
        rfl
      · rw [List.map_singleton, List.sum_singleton, List.map_singleton, List.sum_singleton]
        intro hqty
        rw [mul_div_cancel_right₀ _ hqty]
        rfl
    · have hsum : ((order_fills texts fills order).map fun fill => row_value texts fill "qty").sum
          = 0 := by
        apply List.sum_eq_zero
        intro qty hqty
        obtain ⟨fill, hfill, rfl⟩ := List.mem_map.mp hqty
        exact (hprice fill hfill).1
      refine ⟨?_, fun hne => absurd hsum hne⟩
      rw [hsum]
      exact (hprice _ hmem).1

omit [LinearOrder K] in
/-- Several fills of one quantity that is also their sum are of no quantity. -/
theorem eq_zero_of_sum_eq [CharZero K] {quantities : List K} {qty : K}
    (hmany : 1 < quantities.length) (hsame : ∀ q ∈ quantities, q = qty)
    (hsum : qty = quantities.sum) : qty = 0 := by
  rw [List.sum_eq_card_nsmul quantities qty hsame, nsmul_eq_mul] at hsum
  have hcount : (quantities.length : K) - 1 ≠ 0 := by
    rw [sub_ne_zero, Nat.cast_ne_one]
    exact hmany.ne'
  have hzero : ((quantities.length : K) - 1) * qty = 0 := by
    linear_combination -hsum
  exact (mul_eq_zero.mp hzero).resolve_left hcount

variable [FloorRing K] {inputs : LearningInputs K}

/-- The dataset when the fills come in another order. -/
theorem build_learning_dataset_perm (hinputs : ReadableInputs texts inputs)
    (hperm : fills.Perm inputs.fills) :
    build_learning_dataset texts { inputs with fills := fills }
      = .ok (shown_dataset texts inputs fills) := by
  have hreadable : ReadableInputs texts { inputs with fills := fills } :=
    { hinputs with fills := fun row hrow => hinputs.fills row (hperm.mem_iff.mp hrow) }
  exact build_learning_dataset_eq hreadable

/-- A row that shows the sum of several fills, and the same whichever of them comes last, is one of
fills of no quantity. -/
theorem singleFill_of_shown (inputs : LearningInputs K)
    (hsame : ∀ fills', fills'.Perm fills →
      row_of texts inputs (shown_fill texts fills' order) order
        = row_of texts inputs (shown_fill texts fills order) order)
    (hqty : row_value texts (shown_fill texts fills order) "qty"
      = ((order_fills texts fills order).map fun fill => row_value texts fill "qty").sum) :
    SingleFill texts (order_fills texts fills order) := by
  by_cases hone : (order_fills texts fills order).length ≤ 1
  · exact Or.inl hone
  · have hshown : ∀ fill ∈ order_fills texts fills order,
        row_of texts inputs fill order
          = row_of texts inputs (shown_fill texts fills order) order := by
      intro fill hfill
      obtain ⟨fills', hperm, hlast⟩ := exists_perm_shown_fill hfill
      rw [← hsame fills' hperm, hlast]
    have hzero : row_value texts (shown_fill texts fills order) "qty" = 0 := by
      refine eq_zero_of_sum_eq ?_ ?_ hqty
      · rw [List.length_map]
        exact not_le.mp hone
      · intro q hq
        obtain ⟨fill, hfill, rfl⟩ := List.mem_map.mp hq
        exact congrArg LearningRow.qty (hshown fill hfill)
    refine Or.inr ⟨row_value texts (shown_fill texts fills order) "fill_price", ?_⟩
    intro fill hfill
    refine ⟨?_, congrArg LearningRow.fill_price (hshown fill hfill)⟩
    rw [← hzero]
    exact congrArg LearningRow.qty (hshown fill hfill)

/-- The dataset conserves the fills, in whatever order they come, if and only if every order has one
fill at most, or fills of no quantity and one price. -/
theorem learning_rows_conserve_iff (hinputs : ReadableInputs texts inputs) :
    (∃ dataset, DatasetConserves texts inputs dataset
        ∧ ∀ fills, fills.Perm inputs.fills →
          build_learning_dataset texts { inputs with fills := fills } = .ok dataset)
      ↔ ∀ order ∈ inputs.orders, SingleFill texts (order_fills texts inputs.fills order) := by
  constructor
  · rintro ⟨dataset, hconserves, hbuild⟩ order horder
    have hrows : ∀ fills, fills.Perm inputs.fills →
        dataset.rows = (shown_dataset texts inputs fills).rows := by
      intro fills hperm
      have hok := (hbuild fills hperm).symm.trans (build_learning_dataset_perm hinputs hperm)
      exact congrArg LearningDataset.rows (Except.ok.inj hok)
    have hsame := hrows inputs.fills (.refl _)
    rw [DatasetConserves, hsame, shown_dataset, List.forall₂_map_right_iff,
      List.forall₂_same] at hconserves
    refine singleFill_of_shown inputs ?_ (hconserves order horder).2.qty
    intro fills hperm
    exact List.map_inj_left.mp ((hrows fills hperm).symm.trans hsame) order horder
  · intro hsingle
    refine ⟨shown_dataset texts inputs inputs.fills, ?_, ?_⟩
    · rw [DatasetConserves, shown_dataset, List.forall₂_map_right_iff, List.forall₂_same]
      intro order horder
      exact ⟨rfl, (hsingle order horder).row_conserves⟩
    · intro fills hperm
      have hrows : ∀ order ∈ inputs.orders,
          row_of texts inputs (shown_fill texts fills order) order
            = row_of texts inputs (shown_fill texts inputs.fills order) order := by
        intro order horder
        obtain ⟨hqty, hprice⟩ := (hsingle order horder).shown_eq hperm
        unfold row_of
        rw [hqty, hprice]
      rw [build_learning_dataset_perm hinputs hperm, shown_dataset, shown_dataset,
        List.map_congr_left hrows]

end Conservation

/-! ## An order that was filled in two parts -/

/-- An order of two units. -/
def two_unit_order : JsonObject ℚ :=
  [("order_id", .str "order-1"), ("symbol", .str "BTCUSDT"), ("side", .str "BUY")]

/-- A fill of the order. -/
def part_fill (fill_price qty : ℚ) : JsonObject ℚ :=
  [("order_id", .str "order-1"), ("fill_price", .float fill_price), ("qty", .float qty)]

/-- The inputs with the order and some fills. -/
def two_unit_inputs (fills : List (JsonObject ℚ)) : LearningInputs ℚ where
  orders := [two_unit_order]
  fills := fills
  rejects := []
  paper_session_telemetry := []
  websocket_quality := [("score", .float 1)]
  book_depth := []
  spread_history := [1, 2]
  funding_history := []
  portfolio_exposures := ∅
  artifact_performance := []
  validation_history := []

theorem readable_part_fill (fill_price qty : ℚ) :
    Readable plain_texts ["fill_price", "qty"] (part_fill fill_price qty) := by
  intro key hkey
  rcases List.mem_cons.mp hkey with rfl | hkey
  · exact ⟨fill_price, row_float_of_float rfl⟩
  · rw [List.mem_singleton.mp hkey]
    exact ⟨qty, row_float_of_float rfl⟩

theorem two_unit_inputs_readable (prices : List (ℚ × ℚ)) :
    ReadableInputs plain_texts
      (two_unit_inputs (prices.map fun fill => part_fill fill.1 fill.2)) where
  fills := by
    intro row hrow
    obtain ⟨fill, -, rfl⟩ := List.mem_map.mp hrow
    exact readable_part_fill fill.1 fill.2
  telemetry := by
    intro row hrow
    cases hrow
  quality := by
    intro key hkey
    rw [List.mem_singleton.mp hkey]
    exact ⟨1, row_float_of_float rfl⟩
  depth := by
    intro row hrow
    cases hrow

/-- Filled at once, the order has its fill in its row. -/
theorem learning_rows_conserve_one_fill :
    ∃ dataset, DatasetConserves plain_texts (two_unit_inputs [part_fill 50000 2]) dataset
      ∧ ∀ fills, fills.Perm [part_fill 50000 2] →
        build_learning_dataset plain_texts { two_unit_inputs [part_fill 50000 2] with fills := fills }
          = .ok dataset :=
  (learning_rows_conserve_iff (two_unit_inputs_readable [(50000, 2)])).mpr
    fun _ _ => Or.inl ((List.length_filter_le _ _).trans (le_refl 1))

/-- Filled in two parts, it has the second part. -/
theorem learning_rows_lose_first_part :
    ∃ dataset,
      build_learning_dataset plain_texts (two_unit_inputs [part_fill 50000 1, part_fill 50100 1])
        = .ok dataset
      ∧ dataset.rows.map LearningRow.qty = [1]
      ∧ ¬ DatasetConserves plain_texts (two_unit_inputs [part_fill 50000 1, part_fill 50100 1])
        dataset := by
  refine ⟨_, build_learning_dataset_eq (two_unit_inputs_readable [(50000, 1), (50100, 1)]),
    by decide +kernel, ?_⟩
  intro hconserves
  obtain ⟨⟨-, hrow⟩, -⟩ := List.forall₂_cons.mp hconserves
  exact absurd hrow.qty (by decide +kernel)

end ProofAlpha.Learning
