/-
Strategies and their parameters: `config/models.py`, `LayerSpec` and
`StrategyGraph`, with the parameter lookups of `app/runtime.py`.

Of a layer only the name and the family are ever read here.
-/
import ProofAlpha.Lib.PyDict

set_option autoImplicit false

namespace ProofAlpha.App

open ProofAlpha.Lib

/-- `LayerFamily`. -/
inductive LayerFamily
  | backbone
  | directional_filter
  | known_good_flat_filter
  | custom_flat_filter
  | exit
  | risk_guard
  deriving DecidableEq

/-- `LayerSpec`. -/
structure LayerSpec where
  name : String
  family : LayerFamily
  deriving DecidableEq

/-- `StrategyGraph`. -/
structure StrategyGraph where
  backbone : String
  layers : List LayerSpec
  risk_guards : List LayerSpec
  deriving DecidableEq

/-- `StrategyGraph.with_layer`. -/
def StrategyGraph.with_layer (graph : StrategyGraph) (layer : LayerSpec) : StrategyGraph :=
  { graph with layers := graph.layers ++ [layer] }

/-- The parameters of one layer. -/
abbrev ParameterSet (K : Type) := Dict String K

/-- `layer_parameters`: the parameters by layer name. -/
abbrev LayerParameters (K : Type) := Dict String (ParameterSet K)

variable {K : Type}

/-- `layer_parameters.get(layer_name, {})`. -/
def layer_dict (layer_parameters : LayerParameters K) (layer_name : String) : ParameterSet K :=
  (layer_parameters.lookup layer_name).getD ∅

/-- `_get_layer_parameter`. -/
def get_layer_parameter (layer_parameters : LayerParameters K) (layer_name key : String)
    (default : K) : K :=
  ((layer_dict layer_parameters layer_name).lookup key).getD default

/-- `_merge_layer_parameters`. -/
def merge_layer_parameters (base_layer_parameters : LayerParameters K) (layer_name : String)
    (parameter_set : ParameterSet K) : LayerParameters K :=
  base_layer_parameters.insert layer_name
    ((layer_dict base_layer_parameters layer_name).update parameter_set)

theorem layer_dict_merge_self (base_layer_parameters : LayerParameters K) (layer_name : String)
    (parameter_set : ParameterSet K) :
    layer_dict (merge_layer_parameters base_layer_parameters layer_name parameter_set) layer_name
      = (layer_dict base_layer_parameters layer_name).update parameter_set := by
  rw [layer_dict, merge_layer_parameters, AList.lookup_insert, Option.getD_some]

theorem layer_dict_merge_of_ne (base_layer_parameters : LayerParameters K)
    {layer_name other : String} (h : other ≠ layer_name) (parameter_set : ParameterSet K) :
    layer_dict (merge_layer_parameters base_layer_parameters layer_name parameter_set) other
      = layer_dict base_layer_parameters other := by
  rw [layer_dict, merge_layer_parameters, AList.lookup_insert_ne h, layer_dict]

end ProofAlpha.App
