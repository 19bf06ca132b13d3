import Rollout.Resource.Meta

namespace Rollout

-- What a list of objects says about itself.
abbrev listMetaShape : Shape :=
  .record .standard <|
    .optional "continue" .text <|
    .optional "remainingItemCount" .int64 <|
    .optional "resourceVersion" .text <|
    .optional "selfLink" .text .nil

namespace Status

abbrev causeShape : Shape :=
  .record ⟨.strict, none, []⟩ <|
    .defaulted "reason" .text <|
    .defaulted "message" .text <|
    .defaulted "field" .text .nil

abbrev detailsShape : Shape :=
  .record ⟨.strict, none, []⟩ <|
    .defaulted "name" .text <|
    .defaulted "group" .text <|
    .defaulted "kind" .text <|
    .defaulted "uid" .text <|
    .defaulted "causes" (.list causeShape) <|
    .defaulted "retryAfterSeconds" .uint32 .nil

abbrev shape : Shape :=
  .record ⟨.strict, none, []⟩ <|
    .optional "status" (.choice ["Success", "Failure"]) <|
    .defaulted "code" .uint16 <|
    .defaulted "message" .text <|
    .optional "metadata" listMetaShape <|
    .defaulted "reason" .text <|
    .optional "details" detailsShape .nil

end Status

-- The answer of the server to a request when it gives no object.
structure Status where
  status : Option String
  code : UInt16
  message : String
  metadata : Option (Kept listMetaShape)
  reason : String
  details : Option (Kept Status.detailsShape)

open Described in
instance : Described Status where
  shape := Status.shape
  toValue s := (s.status, s.code, s.message, s.metadata.map toValue, s.reason,
    s.details.map toValue, ())
  ofValue := fun (status, code, message, metadata, reason, details, ()) =>
    ⟨status, code, message, metadata.map ofValue, reason, details.map ofValue⟩
  ofValue_toValue s := by simp
  toValue_ofValue := by
    rintro ⟨_, _, _, _, _, _, ⟨⟩⟩
    simp only [Option.map_map, Prod.mk.injEq, true_and, and_true]
    exact ⟨map_toValue_ofValue _, map_toValue_ofValue _⟩

end Rollout
