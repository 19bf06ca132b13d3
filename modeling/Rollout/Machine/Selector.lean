import Rollout.Schema.Described

namespace Rollout

-- One condition on labels: how the value of a key relates to some values.
structure LabelRequirement where
  key : String
  operator : String
  values : Option (List String)
  deriving Repr, DecidableEq

namespace LabelRequirement

abbrev shape : Shape :=
  .record ⟨.strict, some ("A label selector requirement is a selector that contains values, a key, "
    ++ "and an operator\nthat relates the key and values."), []⟩ <|
    .cons ⟨"key", .required, some "The label key that the selector applies to."⟩ .text <|
    .cons ⟨"operator", .required,
      some ("Operator represents a key's relationship to a set of values.\n"
        ++ "Valid operators are In, `NotIn`, Exists and `DoesNotExist`.")⟩ .text <|
    .cons ⟨"values", .optional false,
      some ("An array of string values. If the operator is In or `NotIn`,\n"
        ++ "the values array must be non-empty. If the operator is Exists or `DoesNotExist`,\n"
        ++ "the values array must be empty.")⟩ (.list .text) .nil

instance : Described LabelRequirement where
  shape := shape
  toValue r := (r.key, r.operator, r.values, ())
  ofValue := fun (key, operator, values, ()) => ⟨key, operator, values⟩
  ofValue_toValue _ := rfl
  toValue_ofValue _ := rfl

-- Whether a set of labels meets the condition. An operator of another name is never met.
def holds (r : LabelRequirement) (labels : Dict String) : Bool :=
  let values := r.values.getD []
  match r.operator with
  | "In" => (labels.get? r.key).any fun v => values.contains v
  | "NotIn" => (labels.get? r.key).all fun v => !values.contains v
  | "Exists" => labels.contains r.key
  | "DoesNotExist" => !labels.contains r.key
  | _ => false

end LabelRequirement

-- A query over labels: pairs that must be there, and further conditions.
structure LabelSelector where
  matchLabels : Option (Dict String)
  matchExpressions : Option (List LabelRequirement)
  deriving DecidableEq

namespace LabelSelector

abbrev shape : Shape :=
  .record ⟨.strict, some ("Label selector to match Kubernetes resources.\n\n"
    ++ "A label selector is a label query over a set of resources. The result of matchLabels and\n"
    ++ "matchExpressions are `ANDed`. An empty label selector matches all objects."), []⟩ <|
    .cons ⟨"matchLabels", .optional false,
      some ("Map of \x7bkey,value\x7d pairs. A single \x7bkey,value\x7d in the matchLabels map is "
        ++ "equivalent\nto an element of matchExpressions, whose key field is \"key\", the "
        ++ "operator is \"In\",\nand the values array contains only \"value\". "
        ++ "All requirements must be satisfied.")⟩ .textMap <|
    .cons ⟨"matchExpressions", .optional false,
      some "List of label selector requirements. All requirements must be satisfied."⟩
      (.list LabelRequirement.shape) .nil

open Described in
instance : Described LabelSelector where
  shape := shape
  toValue s := (s.matchLabels, s.matchExpressions.map toValue, ())
  ofValue := fun (matchLabels, matchExpressions, ()) => ⟨matchLabels, matchExpressions.map ofValue⟩
  ofValue_toValue s := by simp
  toValue_ofValue := by
    rintro ⟨_, _, ⟨⟩⟩
    simp only [Option.map_map, Prod.mk.injEq, true_and, and_true]
    exact map_toValue_ofValue _

-- Whether the selector states no condition.
def isEmpty (s : LabelSelector) : Bool :=
  s.matchLabels.all Dict.isEmpty && s.matchExpressions.all List.isEmpty

-- Whether a set of labels meets all conditions.
def holds (s : LabelSelector) (labels : Dict String) : Bool :=
  s.matchLabels.all (fun wanted => wanted.entries.all fun e => labels.get? e.1 == some e.2)
    && s.matchExpressions.all fun requirements => requirements.all fun r => r.holds labels

end LabelSelector

end Rollout
