/-
The universe manifest: `universe/manifest.py`, and the filter of `universe/filters.py`
that reads it.

A manifest is never changed: every call makes a new one with its own hash, except that
`create` hashes the empty dict instead of its content. Adding a symbol overwrites the one
of that name, its state and its reasons included. So the hash is that of the content once
a symbol has been added, and histories grow and quarantines hold as long as no symbol is
added again after its state was set (`manifest_law_iff`).
-/
import ProofAlpha.Lib.CanonicalJson
import ProofAlpha.Lib.PyDict

set_option autoImplicit false

namespace ProofAlpha.Universe

open ProofAlpha.Lib

/-! ## Manifests -/

/-- `SymbolState`. -/
inductive SymbolState
  | EXCLUDED
  | RESEARCH_ONLY
  | SHADOW
  | PAPER_ALLOWED
  | PAPER_ACTIVE
  | REDUCE_ONLY
  | QUARANTINED
  | RETIRED
  deriving DecidableEq, Repr

/-- The text of a state. -/
def SymbolState.value : SymbolState → String
  | .EXCLUDED => "EXCLUDED"
  | .RESEARCH_ONLY => "RESEARCH_ONLY"
  | .SHADOW => "SHADOW"
  | .PAPER_ALLOWED => "PAPER_ALLOWED"
  | .PAPER_ACTIVE => "PAPER_ACTIVE"
  | .REDUCE_ONLY => "REDUCE_ONLY"
  | .QUARANTINED => "QUARANTINED"
  | .RETIRED => "RETIRED"

/-- `PAPER_STATES`. -/
def PAPER_STATES : List SymbolState := [.PAPER_ALLOWED, .PAPER_ACTIVE, .REDUCE_ONLY]

/-- `UniverseSymbol`. -/
structure UniverseSymbol where
  symbol : String
  state : SymbolState
  ring : String
  reasons : List String
  deriving DecidableEq

/-- `UniverseManifest`. -/
structure UniverseManifest where
  universe_id : String
  approved_by : String
  symbols : Dict String UniverseSymbol
  manifest_hash : String

section Hash

variable {K : Type}

/-- `UniverseSymbol.to_dict`. -/
def UniverseSymbol.to_dict (item : UniverseSymbol) : JsonObject K :=
  [("symbol", .str item.symbol), ("state", .str item.state.value), ("ring", .str item.ring),
    ("reasons", .list (item.reasons.map .str))]

/-- The symbols of a manifest as a dict, sorted by name. -/
def symbol_fields (symbols : Dict String UniverseSymbol) : JsonObject K :=
  (Dict.sorted_items symbols).map fun item => (item.1, .dict item.2.to_dict)

/-- The payload that `_with_hash` hashes. -/
def hash_payload (manifest : UniverseManifest) : JsonObject K :=
  [("universe_id", .str manifest.universe_id), ("approved_by", .str manifest.approved_by),
    ("symbols", .dict (symbol_fields manifest.symbols))]

variable (floats : JsonFloats K) (sha256 : String → String)

/-- `_stable_hash`. -/
def stable_hash (payload : JsonObject K) : String := sha256 (canonical_json floats (.dict payload))

/-- `_with_hash`. -/
def with_hash (manifest : UniverseManifest) : UniverseManifest :=
  { manifest with manifest_hash := stable_hash floats sha256 (hash_payload manifest) }

/-- `UniverseManifest.create`. -/
def create (universe_id approved_by : String) : UniverseManifest where
  universe_id := universe_id
  approved_by := approved_by
  symbols := ∅
  -- the hash of the empty dict, not of the payload
  manifest_hash := stable_hash floats sha256 []

/-- `_with_hash(replace(self, symbols=symbols))` after `symbols[symbol] = item`. -/
def put_symbol (manifest : UniverseManifest) (symbol : String) (item : UniverseSymbol) :
    UniverseManifest :=
  with_hash floats sha256 { manifest with symbols := manifest.symbols.insert symbol item }

/-- `UniverseManifest.add_symbol`. -/
def add_symbol (manifest : UniverseManifest) (symbol ring : String) : UniverseManifest :=
  put_symbol floats sha256 manifest symbol ⟨symbol, .RESEARCH_ONLY, ring, ["new_symbol"]⟩

/-- `UniverseManifest.with_state`. -/
def with_state (manifest : UniverseManifest) (symbol : String) (state : SymbolState)
    (reason : String) : Except String UniverseManifest :=
  match manifest.symbols.lookup symbol with
  -- a `KeyError`
  | none => .error ("symbol_not_in_manifest:" ++ symbol)
  | some current =>
      .ok (put_symbol floats sha256 manifest symbol
        { current with state := state, reasons := current.reasons ++ [reason] })

/-! ## Reading a manifest -/

/-- `UniverseManifest.paper_allowed`. -/
def paper_allowed (manifest : UniverseManifest) (symbol : String) : Bool :=
  match manifest.symbols.lookup symbol with
  | some item => item.state ∈ PAPER_STATES
  | none => false

/-- `executor_symbol_allowed`: the decision and its reasons. -/
def executor_symbol_allowed (manifest : UniverseManifest) (symbol : String) : Bool × List String :=
  if (manifest.symbols.lookup symbol).isNone then (false, ["symbol_not_in_manifest"])
  else if ! paper_allowed manifest symbol then (false, ["symbol_not_paper_allowed"])
  else (true, [])

/-- The executor takes the symbols of the manifest that are in a paper state. -/
theorem executor_symbol_allowed_iff {manifest : UniverseManifest} {symbol : String} :
    (executor_symbol_allowed manifest symbol).1 = true
      ↔ ∃ item, manifest.symbols.lookup symbol = some item ∧ item.state ∈ PAPER_STATES := by
  unfold executor_symbol_allowed paper_allowed
  cases manifest.symbols.lookup symbol with
  | none => simp
  | some item =>
      by_cases hpaper : item.state ∈ PAPER_STATES
      · simp [hpaper]
      · simp [hpaper]

/-! ## Runs -/

/-- A call that makes a manifest from another. -/
inductive ManifestCall
  | add_symbol (symbol ring : String)
  | with_state (symbol : String) (state : SymbolState) (reason : String)

/-- The manifest a call leaves: a call that raises leaves the one before. -/
def manifest_call (manifest : UniverseManifest) : ManifestCall → UniverseManifest
  | .add_symbol symbol ring => add_symbol floats sha256 manifest symbol ring
  | .with_state symbol state reason =>
      match with_state floats sha256 manifest symbol state reason with
      | .ok updated => updated
      | .error _ => manifest

/-- A created manifest and the calls made on it. -/
structure ManifestRun where
  universe_id : String
  approved_by : String
  calls : List ManifestCall

/-- The manifest of a run after some calls. -/
def ManifestRun.after (run : ManifestRun) (calls : List ManifestCall) : UniverseManifest :=
  calls.foldl (manifest_call floats sha256) (create floats sha256 run.universe_id run.approved_by)

/-! ## The law -/

/-- The manifest's hash is that of its content. -/
def HashSound (manifest : UniverseManifest) : Prop :=
  manifest.manifest_hash = stable_hash floats sha256 (hash_payload manifest)

/-- The manifests say the same. -/
structure SameContent (manifest other : UniverseManifest) : Prop where
  universe_id : manifest.universe_id = other.universe_id
  approved_by : manifest.approved_by = other.approved_by
  symbols : ∀ symbol, manifest.symbols.lookup symbol = other.symbols.lookup symbol

/-- A call keeps the reasons of every symbol, and the state of a quarantined or retired
one unless it sets that state. -/
structure CallKeeps (manifest : UniverseManifest) (call : ManifestCall)
    (updated : UniverseManifest) : Prop where
  reasons : ∀ symbol item, manifest.symbols.lookup symbol = some item →
    ∃ item', updated.symbols.lookup symbol = some item' ∧ item.reasons <+: item'.reasons
  state : ∀ symbol item item', manifest.symbols.lookup symbol = some item →
    updated.symbols.lookup symbol = some item' →
    item.state = .QUARANTINED ∨ item.state = .RETIRED → item'.state ≠ item.state →
      ∃ state reason, call = .with_state symbol state reason

/-- The law of a run, with respect to another run: the hash is that of the content, equal
hashes mean equal content, and every call keeps reasons and quarantines. -/
structure ManifestLaw (run other : ManifestRun) : Prop where
  hash : HashSound floats sha256 (run.after floats sha256 run.calls)
  content : (run.after floats sha256 run.calls).manifest_hash
      = (other.after floats sha256 other.calls).manifest_hash →
    SameContent (run.after floats sha256 run.calls) (other.after floats sha256 other.calls)
  keeps : ∀ before call rest, run.calls = before ++ call :: rest →
    CallKeeps (run.after floats sha256 before) call (run.after floats sha256 (before ++ [call]))

/-- The run adds a symbol. -/
def Adds (run : ManifestRun) : Prop := ∃ symbol ring, ManifestCall.add_symbol symbol ring ∈ run.calls

/-- A call does not add a symbol whose state was set since it was added. -/
def AddsUntouched (manifest : UniverseManifest) (call : ManifestCall) : Prop :=
  ∀ symbol ring item, call = .add_symbol symbol ring →
    manifest.symbols.lookup symbol = some item → item.reasons = ["new_symbol"]

/-! ## Calls -/

/-- What a call does: it adds a symbol, sets the state of a symbol that is there, or
raises for one that is not. -/
theorem manifest_call_cases (manifest : UniverseManifest) (call : ManifestCall) :
    (∃ symbol ring, call = .add_symbol symbol ring
        ∧ manifest_call floats sha256 manifest call
          = put_symbol floats sha256 manifest symbol ⟨symbol, .RESEARCH_ONLY, ring, ["new_symbol"]⟩)
      ∨ (∃ symbol state reason current, call = .with_state symbol state reason
        ∧ manifest.symbols.lookup symbol = some current
        ∧ manifest_call floats sha256 manifest call = put_symbol floats sha256 manifest symbol
          { current with state := state, reasons := current.reasons ++ [reason] })
      ∨ (∃ symbol state reason, call = .with_state symbol state reason
        ∧ manifest.symbols.lookup symbol = none
        ∧ manifest_call floats sha256 manifest call = manifest) := by
  cases call with
  | add_symbol symbol ring => exact Or.inl ⟨symbol, ring, rfl, rfl⟩
  | with_state symbol state reason =>
      refine Or.inr ?_
      cases hlookup : manifest.symbols.lookup symbol with
      | none =>
          refine Or.inr ⟨symbol, state, reason, rfl, hlookup, ?_⟩
          unfold manifest_call with_state
          dsimp only
          rw [hlookup]
      | some current =>
          refine Or.inl ⟨symbol, state, reason, current, rfl, hlookup, ?_⟩
          unfold manifest_call with_state
          dsimp only
          rw [hlookup]

theorem after_append_singleton (run : ManifestRun) (before : List ManifestCall)
    (call : ManifestCall) :
    run.after floats sha256 (before ++ [call])
      = manifest_call floats sha256 (run.after floats sha256 before) call := by
  unfold ManifestRun.after
  rw [List.foldl_append]
  rfl

/-! ## Content -/

theorem state_value_injective : Function.Injective SymbolState.value := by
  intro a b h
  cases a <;> cases b <;> first | rfl | exact absurd h (by decide)

theorem sort_keys_items_texts (texts : List String) :
    sort_keys_items (texts.map (JsonValue.str : String → JsonValue K)) = texts.map .str := by
  induction texts with
  | nil => rfl
  | cons text texts ih =>
      rw [List.map_cons, sort_keys_items, ih, sort_keys]

include floats in
/-- A symbol is read back from its dict. -/
theorem to_dict_inj {item other : UniverseSymbol}
    (h : sort_keys (.dict (item.to_dict : JsonObject K)) = sort_keys (.dict other.to_dict)) :
    item = other := by
  have hjson := (canonical_json_eq_iff floats).mpr h
  have hsymbol : item.symbol = other.symbol :=
    JsonValue.str.inj (Option.some.inj (canonical_field_eq floats hjson "symbol"))
  have hstate : item.state.value = other.state.value :=
    JsonValue.str.inj (Option.some.inj (canonical_field_eq floats hjson "state"))
  have hring : item.ring = other.ring :=
    JsonValue.str.inj (Option.some.inj (canonical_field_eq floats hjson "ring"))
  have hreasons : sort_keys_items (item.reasons.map (JsonValue.str : String → JsonValue K))
      = sort_keys_items (other.reasons.map .str) :=
    JsonValue.list.inj (Option.some.inj (canonical_field_eq floats hjson "reasons"))
  rw [sort_keys_items_texts, sort_keys_items_texts] at hreasons
  have htexts : item.reasons = other.reasons :=
    List.map_injective_iff.mpr (fun _ _ => JsonValue.str.inj) hreasons
  obtain ⟨_, _, _, _⟩ := item
  obtain ⟨_, _, _, _⟩ := other
  cases hsymbol
  cases state_value_injective hstate
  cases hring
  cases htexts
  rfl

theorem lookup_symbol_fields (symbols : Dict String UniverseSymbol) (symbol : String) :
    List.lookup symbol (symbol_fields symbols : JsonObject K)
      = (symbols.lookup symbol).map fun item => .dict item.to_dict := by
  have hmap : ∀ items : List (String × UniverseSymbol),
      List.lookup symbol (items.map fun item => (item.1, JsonValue.dict (item.2.to_dict (K := K))))
        = (List.lookup symbol items).map fun item => .dict item.to_dict := by
    intro items
    induction items with
    | nil => rfl
    | cons item items ih =>
        obtain ⟨name, value⟩ := item
        rw [List.map_cons, List.lookup_cons, List.lookup_cons, ih]
        cases symbol == name with
        | true => rfl
        | false => rfl
  unfold symbol_fields
  rw [hmap, Dict.lookup_sorted_items]

include floats in
/-- The symbols are read back from their dict. -/
theorem lookup_eq_of_symbol_fields {symbols others : Dict String UniverseSymbol}
    (h : sort_keys (.dict (symbol_fields symbols : JsonObject K))
      = sort_keys (.dict (symbol_fields others))) (symbol : String) :
    symbols.lookup symbol = others.lookup symbol := by
  have hfield := canonical_field_eq floats ((canonical_json_eq_iff floats).mpr h) symbol
  unfold canonical_field at hfield
  rw [lookup_symbol_fields, lookup_symbol_fields] at hfield
  cases hmine : symbols.lookup symbol with
  | none =>
      rw [hmine] at hfield
      cases hother : others.lookup symbol with
      | none => rfl
      | some other =>
          rw [hother] at hfield
          cases hfield
  | some item =>
      rw [hmine] at hfield
      cases hother : others.lookup symbol with
      | none =>
          rw [hother] at hfield
          cases hfield
      | some other =>
          rw [hother] at hfield
          exact congrArg some (to_dict_inj floats (Option.some.inj hfield))

/-! ## The hash -/

variable {floats sha256}

theorem hashSound_put_symbol (manifest : UniverseManifest) (symbol : String)
    (item : UniverseSymbol) :
    HashSound floats sha256 (put_symbol floats sha256 manifest symbol item) := rfl

/-- Once a symbol has been added, every later manifest has been hashed with its content. -/
theorem hashSound_after (run : ManifestRun) {calls : List ManifestCall} {symbol ring : String}
    (hadd : ManifestCall.add_symbol symbol ring ∈ calls) :
    HashSound floats sha256 (run.after floats sha256 calls) := by
  induction calls using List.reverseRecOn with
  | nil => exact absurd hadd List.not_mem_nil
  | append_singleton before call ih =>
      rw [after_append_singleton]
      rcases manifest_call_cases floats sha256 (run.after floats sha256 before) call with
        ⟨_, _, -, hmade⟩ | ⟨_, _, _, _, -, -, hmade⟩ | ⟨_, _, _, hcall, -, hmade⟩
      · rw [hmade]
        exact hashSound_put_symbol _ _ _
      · rw [hmade]
        exact hashSound_put_symbol _ _ _
      · rw [hmade]
        refine ih ?_
        rcases List.mem_append.mp hadd with hbefore | hlast
        · exact hbefore
        · rw [hcall] at hlast
          cases List.mem_singleton.mp hlast

/-- Before a symbol is added, the manifest is the created one: no symbol has a state to
set. -/
theorem after_eq_create (run : ManifestRun) {calls : List ManifestCall}
    (hnone : ∀ symbol ring, ManifestCall.add_symbol symbol ring ∉ calls) :
    run.after floats sha256 calls = create floats sha256 run.universe_id run.approved_by := by
  induction calls using List.reverseRecOn with
  | nil => rfl
  | append_singleton before call ih =>
      have hcreated := ih fun symbol ring hadd => hnone symbol ring (List.mem_append_left _ hadd)
      rw [after_append_singleton, hcreated]
      rcases manifest_call_cases floats sha256
          (create floats sha256 run.universe_id run.approved_by) call with
        ⟨symbol, ring, hcall, -⟩ | ⟨symbol, _, _, current, -, hlookup, -⟩ | ⟨_, _, _, -, -, hmade⟩
      · refine absurd (List.mem_append_right _ ?_) (hnone symbol ring)
        rw [hcall]
        exact List.mem_singleton_self _
      · have hempty : (∅ : Dict String UniverseSymbol).lookup symbol = some current := hlookup
        rw [AList.lookup_empty] at hempty
        cases hempty
      · exact hmade

variable (hinj : Function.Injective sha256)

include hinj

theorem canonical_json_of_stable_hash {p q : JsonObject K}
    (h : stable_hash floats sha256 p = stable_hash floats sha256 q) :
    canonical_json floats (.dict p) = canonical_json floats (.dict q) := hinj h

/-- The empty dict does not hash like a payload. -/
theorem stable_hash_nil_ne (manifest : UniverseManifest) :
    stable_hash floats sha256 [] ≠ stable_hash floats sha256 (hash_payload manifest) := by
  intro h
  have hfield := canonical_field_eq floats (canonical_json_of_stable_hash hinj h) "universe_id"
  cases hfield

/-- The hash of a run's manifest is that of its content exactly when a symbol has been
added. -/
theorem hashSound_after_iff (run : ManifestRun) :
    HashSound floats sha256 (run.after floats sha256 run.calls) ↔ Adds run := by
  constructor
  · intro hsound
    by_contra hadds
    have hcreated : run.after floats sha256 run.calls
        = create floats sha256 run.universe_id run.approved_by :=
      after_eq_create run fun symbol ring hadd => hadds ⟨symbol, ring, hadd⟩
    rw [hcreated] at hsound
    exact stable_hash_nil_ne hinj _ hsound
  · rintro ⟨symbol, ring, hadd⟩
    exact hashSound_after run hadd

/-- Equal hashes of contents mean equal content. -/
theorem sameContent_of_hash_eq {manifest other : UniverseManifest}
    (h : stable_hash floats sha256 (hash_payload manifest)
      = stable_hash floats sha256 (hash_payload other)) : SameContent manifest other := by
  have hjson := canonical_json_of_stable_hash hinj h
  have hid := canonical_field_eq floats hjson "universe_id"
  have happroved := canonical_field_eq floats hjson "approved_by"
  have hsymbols := canonical_field_eq floats hjson "symbols"
  refine ⟨JsonValue.str.inj (Option.some.inj hid), JsonValue.str.inj (Option.some.inj happroved), ?_⟩
  exact lookup_eq_of_symbol_fields floats (Option.some.inj hsymbols)

/-- A manifest whose hash is that of its content shares it with its content only. -/
theorem sameContent_after {run other : ManifestRun} (hadds : Adds run)
    (h : (run.after floats sha256 run.calls).manifest_hash
      = (other.after floats sha256 other.calls).manifest_hash) :
    SameContent (run.after floats sha256 run.calls) (other.after floats sha256 other.calls) := by
  have hsound : HashSound floats sha256 (run.after floats sha256 run.calls) :=
    (hashSound_after_iff hinj run).mpr hadds
  by_cases hother : Adds other
  · have hother_sound : HashSound floats sha256 (other.after floats sha256 other.calls) :=
      (hashSound_after_iff hinj other).mpr hother
    have hcontents : stable_hash floats sha256 (hash_payload (run.after floats sha256 run.calls))
        = stable_hash floats sha256 (hash_payload (other.after floats sha256 other.calls)) := by
      rw [← hsound, ← hother_sound, h]
    exact sameContent_of_hash_eq hinj hcontents
  · have hcreated : other.after floats sha256 other.calls
        = create floats sha256 other.universe_id other.approved_by :=
      after_eq_create other fun symbol ring hadd => hother ⟨symbol, ring, hadd⟩
    rw [hcreated, hsound] at h
    exact absurd h.symm (stable_hash_nil_ne hinj _)

/-! ## Reasons and quarantines -/

omit hinj

/-- The symbols of a run begin with the reason they were added for, and while that is
their only reason they are in research. -/
structure SymbolsMade (symbols : Dict String UniverseSymbol) : Prop where
  added : ∀ symbol item, symbols.lookup symbol = some item →
    ∃ later, item.reasons = "new_symbol" :: later
  fresh : ∀ symbol item, symbols.lookup symbol = some item → item.reasons = ["new_symbol"] →
    item.state = .RESEARCH_ONLY

/-- Putting a symbol in keeps what all symbols satisfy. -/
theorem SymbolsMade.insert {symbols : Dict String UniverseSymbol} (h : SymbolsMade symbols)
    (symbol : String) {item : UniverseSymbol} (hadded : ∃ later, item.reasons = "new_symbol" :: later)
    (hfresh : item.reasons = ["new_symbol"] → item.state = .RESEARCH_ONLY) :
    SymbolsMade (symbols.insert symbol item) := by
  constructor
  · intro other found hfound
    by_cases hother : other = symbol
    · subst hother
      rw [AList.lookup_insert] at hfound
      rw [← Option.some.inj hfound]
      exact hadded
    · rw [AList.lookup_insert_ne hother] at hfound
      exact h.added other found hfound
  · intro other found hfound
    by_cases hother : other = symbol
    · subst hother
      rw [AList.lookup_insert] at hfound
      rw [← Option.some.inj hfound]
      exact hfresh
    · rw [AList.lookup_insert_ne hother] at hfound
      exact h.fresh other found hfound

theorem manifest_call_symbolsMade {manifest : UniverseManifest} (h : SymbolsMade manifest.symbols)
    (call : ManifestCall) : SymbolsMade (manifest_call floats sha256 manifest call).symbols := by
  rcases manifest_call_cases floats sha256 manifest call with
    ⟨symbol, ring, -, hmade⟩ | ⟨symbol, state, reason, current, -, hlookup, hmade⟩
      | ⟨_, _, _, -, -, hmade⟩
  · rw [hmade]
    exact h.insert symbol ⟨[], rfl⟩ fun _ => rfl
  · rw [hmade]
    obtain ⟨later, hlater⟩ := h.added symbol current hlookup
    refine h.insert symbol ⟨later ++ [reason], ?_⟩ ?_
    · dsimp only
      rw [hlater, List.cons_append]
    · intro hreasons
      dsimp only at hreasons
      rw [hlater] at hreasons
      simp at hreasons
  · rw [hmade]
    exact h

theorem after_symbolsMade (run : ManifestRun) (calls : List ManifestCall) :
    SymbolsMade (run.after floats sha256 calls).symbols := by
  induction calls using List.reverseRecOn with
  | nil =>
      constructor
      · intro symbol item hitem
        cases (AList.lookup_empty symbol).symm.trans hitem
      · intro symbol item hitem
        cases (AList.lookup_empty symbol).symm.trans hitem
  | append_singleton before call ih =>
      rw [after_append_singleton]
      exact manifest_call_symbolsMade ih call

/-- Adding a symbol keeps reasons and quarantines exactly when it overwrites nothing but
a symbol as it was added. -/
theorem add_symbol_keeps_iff {manifest : UniverseManifest} (h : SymbolsMade manifest.symbols)
    (symbol ring : String) :
    CallKeeps manifest (.add_symbol symbol ring) (add_symbol floats sha256 manifest symbol ring)
      ↔ AddsUntouched manifest (.add_symbol symbol ring) := by
  have hself : (add_symbol floats sha256 manifest symbol ring).symbols.lookup symbol
      = some ⟨symbol, .RESEARCH_ONLY, ring, ["new_symbol"]⟩ := AList.lookup_insert _
  have hothers : ∀ other, other ≠ symbol →
      (add_symbol floats sha256 manifest symbol ring).symbols.lookup other
        = manifest.symbols.lookup other := fun _ hother => AList.lookup_insert_ne hother
  constructor
  · intro hkeeps named _ item hcall hitem
    cases hcall
    obtain ⟨item', hitem', hgrows⟩ := hkeeps.reasons symbol item hitem
    rw [hself] at hitem'
    rw [← Option.some.inj hitem'] at hgrows
    obtain ⟨later, hlater⟩ := h.added symbol item hitem
    rw [hlater, List.cons_prefix_cons] at hgrows
    rw [hlater, List.prefix_nil.mp hgrows.2]
  · intro huntouched
    constructor
    · intro other item hitem
      by_cases hother : other = symbol
      · subst hother
        refine ⟨_, hself, ?_⟩
        have hreasons : item.reasons = ["new_symbol"] := huntouched other ring item rfl hitem
        exact hreasons ▸ List.prefix_rfl
      · exact ⟨item, (hothers other hother).trans hitem, List.prefix_rfl⟩
    · intro other item item' hitem hitem' hheld hchanged
      by_cases hother : other = symbol
      · subst hother
        have hfresh := h.fresh other item hitem (huntouched other ring item rfl hitem)
        rw [hfresh] at hheld
        simp at hheld
      · rw [hothers other hother, hitem] at hitem'
        exact absurd (congrArg UniverseSymbol.state (Option.some.inj hitem').symm) hchanged

/-- Setting the state of a symbol keeps the reasons, and sets that state only. -/
theorem with_state_keeps (manifest : UniverseManifest) (symbol : String) (state : SymbolState)
    (reason : String) :
    CallKeeps manifest (.with_state symbol state reason)
      (manifest_call floats sha256 manifest (.with_state symbol state reason)) := by
  rcases manifest_call_cases floats sha256 manifest (.with_state symbol state reason) with
    ⟨_, _, hcall, -⟩ | ⟨_, _, _, current, hcall, hlookup, hmade⟩ | ⟨_, _, _, -, -, hmade⟩
  · cases hcall
  · cases hcall
    rw [hmade]
    have hself : (put_symbol floats sha256 manifest symbol
        { current with state := state, reasons := current.reasons ++ [reason] }).symbols.lookup symbol
        = some { current with state := state, reasons := current.reasons ++ [reason] } :=
      AList.lookup_insert _
    have hothers : ∀ other, other ≠ symbol → (put_symbol floats sha256 manifest symbol
        { current with state := state, reasons := current.reasons ++ [reason] }).symbols.lookup other
        = manifest.symbols.lookup other := fun _ hother => AList.lookup_insert_ne hother
    constructor
    · intro other item hitem
      by_cases hother : other = symbol
      · subst hother
        rw [hlookup] at hitem
        refine ⟨_, hself, ?_⟩
        rw [← Option.some.inj hitem]
        exact List.prefix_append _ _
      · exact ⟨item, (hothers other hother).trans hitem, List.prefix_rfl⟩
    · intro other item item' hitem hitem' _ hchanged
      by_cases hother : other = symbol
      · exact ⟨state, reason, by rw [hother]⟩
      · rw [hothers other hother, hitem] at hitem'
        exact absurd (congrArg UniverseSymbol.state (Option.some.inj hitem').symm) hchanged
  · rw [hmade]
    constructor
    · intro other item hitem
      exact ⟨item, hitem, List.prefix_rfl⟩
    · intro other item item' hitem hitem' _ hchanged
      rw [hitem] at hitem'
      exact absurd (congrArg UniverseSymbol.state (Option.some.inj hitem').symm) hchanged

theorem manifest_call_keeps_iff {manifest : UniverseManifest} (h : SymbolsMade manifest.symbols)
    (call : ManifestCall) :
    CallKeeps manifest call (manifest_call floats sha256 manifest call)
      ↔ AddsUntouched manifest call := by
  cases call with
  | add_symbol symbol ring => exact add_symbol_keeps_iff h symbol ring
  | with_state symbol state reason =>
      refine iff_of_true (with_state_keeps manifest symbol state reason) ?_
      intro named ring item hcall
      cases hcall

/-! ## A run -/

/-- A run keeps the law, against every other run, if and only if it adds a symbol and
never adds one again whose state was set since it was added. -/
theorem manifest_law_iff (hinj : Function.Injective sha256) (run other : ManifestRun) :
    ManifestLaw floats sha256 run other
      ↔ Adds run ∧ ∀ before call rest, run.calls = before ++ call :: rest →
        AddsUntouched (run.after floats sha256 before) call := by
  have hkeeps : ∀ before call,
      CallKeeps (run.after floats sha256 before) call (run.after floats sha256 (before ++ [call]))
        ↔ AddsUntouched (run.after floats sha256 before) call := by
    intro before call
    rw [after_append_singleton]
    exact manifest_call_keeps_iff (after_symbolsMade run before) call
  constructor
  · intro hlaw
    refine ⟨(hashSound_after_iff hinj run).mp hlaw.hash, ?_⟩
    intro before call rest hcalls
    exact (hkeeps before call).mp (hlaw.keeps before call rest hcalls)
  · rintro ⟨hadds, huntouched⟩
    exact
      { hash := (hashSound_after_iff hinj run).mpr hadds
        content := sameContent_after hinj hadds
        keeps := fun before call rest hcalls =>
          (hkeeps before call).mpr (huntouched before call rest hcalls) }

end Hash

/-! ## A symbol that is added again -/

/-- A symbol is added and quarantined. -/
def quarantine_run : ManifestRun where
  universe_id := "usdm-v1"
  approved_by := "risk"
  calls := [.add_symbol "BTCUSDT" "RING_3_RESEARCH",
    .with_state "BTCUSDT" .QUARANTINED "reconciliation_issue"]

/-- It keeps the law. -/
theorem quarantine_run_lawful :
    ManifestLaw JsonFloats.rat id quarantine_run ⟨"usdm-v2", "risk", []⟩ := by
  refine (manifest_law_iff Function.injective_id quarantine_run _).mpr
    ⟨⟨"BTCUSDT", "RING_3_RESEARCH", List.mem_cons_self⟩, ?_⟩
  intro before call rest hcalls symbol ring item hadd hitem
  cases before with
  | nil => cases (AList.lookup_empty symbol).symm.trans hitem
  | cons first before =>
      have htail : [ManifestCall.with_state "BTCUSDT" .QUARANTINED "reconciliation_issue"]
          = before ++ call :: rest := (List.cons.inj hcalls).2
      have hmem : call ∈ [ManifestCall.with_state "BTCUSDT" .QUARANTINED "reconciliation_issue"] := by
        rw [htail]
        exact List.mem_append_right _ List.mem_cons_self
      rw [hadd] at hmem
      cases List.mem_singleton.mp hmem

/-- Added again, the symbol is back in research and its reasons are gone. Before any
symbol is added, two manifests of different names have one hash. -/
theorem readded_symbol_leaves_quarantine :
    let before := quarantine_run.after JsonFloats.rat id quarantine_run.calls
    let after := quarantine_run.after JsonFloats.rat id
      (quarantine_run.calls ++ [.add_symbol "BTCUSDT" "RING_3_RESEARCH"])
    (before.symbols.lookup "BTCUSDT").map UniverseSymbol.state = some .QUARANTINED
      ∧ (after.symbols.lookup "BTCUSDT").map UniverseSymbol.state = some .RESEARCH_ONLY
      ∧ (before.symbols.lookup "BTCUSDT").map UniverseSymbol.reasons
        = some ["new_symbol", "reconciliation_issue"]
      ∧ (after.symbols.lookup "BTCUSDT").map UniverseSymbol.reasons = some ["new_symbol"]
      ∧ (create JsonFloats.rat id "usdm-v1" "risk").manifest_hash
        = (create JsonFloats.rat id "usdm-v2" "risk").manifest_hash
      ∧ ¬ ManifestLaw JsonFloats.rat id
        { quarantine_run with calls := quarantine_run.calls
            ++ [.add_symbol "BTCUSDT" "RING_3_RESEARCH"] } quarantine_run := by
  refine ⟨by decide +kernel, by decide +kernel, by decide +kernel, by decide +kernel, rfl, ?_⟩
  intro hlaw
  obtain ⟨item', hitem', hgrows⟩ := (hlaw.keeps quarantine_run.calls _ [] rfl).reasons "BTCUSDT"
    ⟨"BTCUSDT", .QUARANTINED, "RING_3_RESEARCH", ["new_symbol", "reconciliation_issue"]⟩ rfl
  cases hitem'
  revert hgrows
  decide

end ProofAlpha.Universe
