import FxToushi.Features.Matrix

namespace FxToushi.Features

open Data Py

/-! # Registering indicators

`register_indicator` refuses a second indicator under one identifier.  It does
not look at the keys the indicators write.
-/

namespace IndicatorDefinition

def expandedFeatureKeys (indicator : IndicatorDefinition) : Finset String :=
  (indicator.timeframes.flatMap (fun timeframe =>
    indicator.outputKeys.entries.map
      (fun entry => FeaturePipeline.columnName entry.2 timeframe))).toFinset

/-- The output keys of some columns, when the definition names all of them. -/
def keysOf (indicator : IndicatorDefinition) (columns : List String) : List String :=
  if ∀ column ∈ columns, (indicator.outputKeys.get? column).isSome then
    columns.filterMap indicator.outputKeys.get?
  else []

/-- The output keys `_compute_indicator` writes when it returns. -/
def writtenKeys (indicator : IndicatorDefinition) : List String :=
  if startsWith indicator.identifier "sma" then indicator.keysOf ["default"]
  else if startsWith indicator.identifier "ema" && indicator.identifier != "ema55_slope" then
    indicator.keysOf ["default"]
  else if startsWith indicator.identifier "rsi" then indicator.keysOf ["default"]
  else if startsWith indicator.identifier "atr" then indicator.keysOf ["default"]
  else if startsWith indicator.identifier "ema55_slope" then indicator.keysOf ["default"]
  else if startsWith indicator.identifier "bollinger" then
    indicator.keysOf ["upper", "middle", "lower"]
  else if startsWith indicator.identifier "macd" then
    indicator.keysOf ["line", "signal", "histogram"]
  else if startsWith indicator.identifier "donchian" then
    ["upper", "lower", "mid"].map indicator.outputKeyOr
  else if startsWith indicator.identifier "zscore" then indicator.keysOf ["default"]
  else if startsWith indicator.identifier "session_tag" then indicator.keysOf ["default"]
  else if startsWith indicator.identifier "regime_trend" then indicator.keysOf ["default"]
  else []

variable {pandas : Pandas} {indicator : IndicatorDefinition} {outputs : Outputs}

theorem get?_of_outputKey {column featureAlias : String}
    (named : indicator.outputKey column = .ok featureAlias) :
    indicator.outputKeys.get? column = some featureAlias := by
  unfold outputKey at named
  split at named
  · rename_i found
    rw [found, Except.ok.inj named]
  · cases named

theorem keysOf_of_named {columns aliases : List String}
    (named : List.Forall₂ (fun column featureAlias =>
      indicator.outputKey column = .ok featureAlias) columns aliases) :
    indicator.keysOf columns = aliases := by
  have found : List.Forall₂ (fun column featureAlias =>
      indicator.outputKeys.get? column = some featureAlias) columns aliases :=
    named.imp fun _ _ => get?_of_outputKey
  have every : ∀ column ∈ columns, (indicator.outputKeys.get? column).isSome := by
    clear named
    induction found with
    | nil => simp
    | cons first _ ih => exact List.forall_mem_cons.mpr ⟨by rw [first]; rfl, ih⟩
  rw [keysOf, if_pos every]
  clear named every
  induction found with
  | nil => rfl
  | cons first _ ih => rw [List.filterMap_cons_some first, ih]

end IndicatorDefinition

/-- Every column of the outputs is under one of the keys. -/
def Outputs.Within (outputs : Outputs) (keys : List String) : Prop :=
  ∀ entry ∈ outputs.columns.entries, entry.1 ∈ keys

namespace IndicatorDefinition

variable {pandas : Pandas} {indicator : IndicatorDefinition} {outputs : Outputs}

theorem within_single {column : Column (Option Cell)}
    (computed : (do
      let featureAlias ← indicator.outputKey "default"
      return Outputs.single featureAlias column) = (.ok outputs : Except FeatureError Outputs)) :
    outputs.Within (indicator.keysOf ["default"]) := by
  obtain ⟨featureAlias, named, computed⟩ := bind_ok computed
  obtain rfl := Except.ok.inj computed
  rw [keysOf_of_named (.cons named .nil)]
  intro entry listed
  obtain rfl := List.mem_singleton.mp listed
  exact List.mem_singleton_self _

theorem within_windowed {Source : Type} {made : Except FeatureError Source}
    {column : Source → Column (Option Cell)}
    (computed : (do
      let source ← made
      let featureAlias ← indicator.outputKey "default"
      return Outputs.single featureAlias (column source)) =
        (.ok outputs : Except FeatureError Outputs)) :
    outputs.Within (indicator.keysOf ["default"]) := by
  obtain ⟨_, -, computed⟩ := bind_ok computed
  exact within_single computed

theorem within_three (first second third : String) (one two three : Column (Option Cell)) :
    (((Outputs.single first one).set second two).set third three).Within
      [first, second, third] := by
  intro entry listed
  have present := Dict.get?_eq_some_iff _ |>.mpr listed
  rw [Outputs.set, Outputs.set, Outputs.single, Dict.get?_set, Dict.get?_set,
    Dict.get?_set] at present
  by_cases last : third = entry.1
  · simp [last]
  · by_cases middle : second = entry.1
    · simp [middle]
    · by_cases head : first = entry.1
      · simp [head]
      · rw [if_neg last, if_neg middle, if_neg head] at present
        cases present

theorem within_ite {kind : Prop} [Decidable kind] {own others : Except FeatureError Outputs}
    {keys otherKeys : List String} (computed : (if kind then own else others) = .ok outputs)
    (here : own = .ok outputs → outputs.Within keys)
    (elsewhere : others = .ok outputs → outputs.Within otherKeys) :
    outputs.Within (if kind then keys else otherKeys) := by
  by_cases kind
  · rename_i holds
    rw [if_pos holds] at computed ⊢
    exact here computed
  · rename_i fails
    rw [if_neg fails] at computed ⊢
    exact elsewhere computed

/-- What `_compute_indicator` returns is under the keys it writes. -/
theorem within_writtenKeys (computed : indicatorOutputs pandas indicator = .ok outputs) :
    outputs.Within indicator.writtenKeys := by
  obtain ⟨window, -, computed⟩ := bind_ok computed
  -- sma, ema, rsi, atr and ema55_slope
  apply within_ite computed within_windowed
  intro computed
  apply within_ite computed within_windowed
  intro computed
  apply within_ite computed within_windowed
  intro computed
  apply within_ite computed within_windowed
  intro computed
  apply within_ite computed within_windowed
  intro computed
  -- bollinger
  apply within_ite computed
  · intro computed
    obtain ⟨_, -, computed⟩ := bind_ok computed
    obtain ⟨_, -, computed⟩ := bind_ok computed
    obtain ⟨_, -, computed⟩ := bind_ok computed
    obtain ⟨upper, upperNamed, computed⟩ := bind_ok computed
    obtain ⟨middle, middleNamed, computed⟩ := bind_ok computed
    obtain ⟨lower, lowerNamed, computed⟩ := bind_ok computed
    obtain rfl := Except.ok.inj computed
    rw [keysOf_of_named (.cons upperNamed (.cons middleNamed (.cons lowerNamed .nil)))]
    exact within_three _ _ _ _ _ _
  intro computed
  -- macd
  apply within_ite computed
  · intro computed
    obtain ⟨_, -, computed⟩ := bind_ok computed
    obtain ⟨_, -, computed⟩ := bind_ok computed
    obtain ⟨_, -, computed⟩ := bind_ok computed
    obtain ⟨_, -, computed⟩ := bind_ok computed
    obtain ⟨_, -, computed⟩ := bind_ok computed
    obtain ⟨_, -, computed⟩ := bind_ok computed
    obtain ⟨line, lineNamed, computed⟩ := bind_ok computed
    obtain ⟨signal, signalNamed, computed⟩ := bind_ok computed
    obtain ⟨histogram, histogramNamed, computed⟩ := bind_ok computed
    obtain rfl := Except.ok.inj computed
    rw [keysOf_of_named (.cons lineNamed (.cons signalNamed (.cons histogramNamed .nil)))]
    exact within_three _ _ _ _ _ _
  intro computed
  -- donchian
  apply within_ite computed
  · intro computed
    obtain ⟨_, -, computed⟩ := bind_ok computed
    obtain ⟨_, -, computed⟩ := bind_ok computed
    obtain rfl := Except.ok.inj computed
    exact within_three _ _ _ _ _ _
  intro computed
  -- zscore
  apply within_ite computed
  · intro computed
    obtain ⟨_, -, computed⟩ := bind_ok computed
    exact within_windowed computed
  intro computed
  -- session_tag
  apply within_ite computed within_single
  intro computed
  -- regime_trend
  apply within_ite computed within_windowed
  intro computed
  cases computed

end IndicatorDefinition

/-! ## Registration -/

namespace FeaturePipeline

def basePriceKeys (pipeline : FeaturePipeline) : Finset String :=
  (["open", "high", "low", "close", "volume"].map
    (fun price => columnName price pipeline.defaultTimeframe)).toFinset

end FeaturePipeline

/-- A pipeline in use: its definition, the keys it makes available and what it
keeps between calls. -/
structure LivePipeline where
  pipeline : FeaturePipeline
  availableKeys : Finset String
  state : PipelineState

namespace LivePipeline

/-- A pipeline without indicators, before the first call. -/
def fresh (pipeline : FeaturePipeline) : LivePipeline where
  pipeline := { pipeline with indicators := [] }
  availableKeys := pipeline.basePriceKeys
  state := .fresh

def registerIndicator (live : LivePipeline) (indicator : IndicatorDefinition) :
    Except FeatureError LivePipeline :=
  if indicator.identifier ∈ live.pipeline.indicators.map IndicatorDefinition.identifier then
    .error (.valueError s!"Indicator '{indicator.identifier}' already registered")
  else
    .ok { live with
      pipeline := { live.pipeline with indicators := live.pipeline.indicators ++ [indicator] }
      availableKeys := live.availableKeys ∪ indicator.expandedFeatureKeys }

end LivePipeline

end FxToushi.Features
