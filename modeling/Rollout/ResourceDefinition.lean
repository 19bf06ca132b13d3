import Rollout.Machine.Deployment
import Rollout.Schema.OpenApi
import Rollout.Yaml.Layout

namespace Rollout

-- What a server has to be told of a kind of resource before it keeps objects of it.
structure ResourceDefinition where
  kind : Kind
  shortName : String
  shape : Shape
  -- Whether the number of its machines can be set without the rest of the object.
  scalable : Bool

namespace ResourceDefinition

open OpenApi (ofMembers)

def deployments : ResourceDefinition :=
  ⟨MachineDeployment.kind, "md", MachineDeployment.shape, true⟩

def sets : ResourceDefinition := ⟨MachineSet.kind, "ms", MachineSet.shape, true⟩

def machines : ResourceDefinition := ⟨Machine.kind, "ma", Machine.shape, false⟩

def all : List ResourceDefinition := [deployments, sets, machines]

def withoutMetadata : Fields → Fields
  | .nil => .nil
  | .cons field shape rest =>
    if field.key = "metadata" then withoutMetadata rest
    else .cons field shape (withoutMetadata rest)

-- The schema of an object, except for what every object says about itself.
def schema (d : ResourceDefinition) : Json :=
  match d.shape with
  | .record info fields =>
    ofMembers (OpenApi.sayings (.record info (withoutMetadata fields))
      ++ [("title", .text d.kind.name)])
  | shape => OpenApi.schema shape

def scale : Json :=
  ofMembers [("specReplicasPath", .text ".spec.replicas"),
    ("statusReplicasPath", .text ".status.replicas")]

-- The parts of an object that can be written alone.
def subresources (d : ResourceDefinition) : Json :=
  ofMembers (("status", .object []) :: if d.scalable then [("scale", scale)] else [])

def version (d : ResourceDefinition) : Json :=
  ofMembers [
    ("additionalPrinterColumns", .list []),
    ("name", .text d.kind.version),
    ("schema", ofMembers [("openAPIV3Schema", d.schema)]),
    ("served", .bool true),
    ("storage", .bool true),
    ("subresources", d.subresources)]

def names (d : ResourceDefinition) : Json :=
  ofMembers [
    ("categories", .list []),
    ("kind", .text d.kind.name),
    ("plural", .text d.kind.plural),
    ("shortNames", .list [.text d.shortName]),
    ("singular", .text d.kind.name.toLower)]

def toJson (d : ResourceDefinition) : Json :=
  ofMembers [
    ("apiVersion", .text "apiextensions.k8s.io/v1"),
    ("kind", .text "CustomResourceDefinition"),
    ("metadata", ofMembers [("name", .text s!"{d.kind.plural}.{d.kind.group}")]),
    ("spec", ofMembers [
      ("group", .text d.kind.group),
      ("names", d.names),
      ("scope", .text (if d.kind.namespaced then "Namespaced" else "Cluster")),
      ("versions", .list [d.version])])]

def fileName (d : ResourceDefinition) : String := s!"{d.kind.plural}.crd.yaml"

-- What stands at the top of every file.
def header : List String :=
  ["Copyright (c) 2025 Erick Bourgeois, firestoned",
    "SPDX-License-Identifier: MIT",
    "",
    "This file is AUTO-GENERATED from src/crd.rs",
    "DO NOT EDIT MANUALLY - Run \x60cargo run --bin crdgen\x60 to regenerate",
    ""]

def comment (line : String) : String := if line.isEmpty then "#\n" else s!"# {line}\n"

def fileText (d : ResourceDefinition) : String :=
  String.join (header.map comment) ++ Yaml.render d.toJson

def directory : String := "deploy/crds"

def report : String :=
  String.join (
    ["Generating CRD YAML files from src/crd.rs...\n"]
      ++ all.map (fun d => s!"  ✓ Generated {d.fileName}\n")
      ++ [s!"✓ Successfully generated CRD YAML files in {directory}/\n",
        "\nNext steps:\n",
        "  1. Review the generated files\n",
        s!"  2. Deploy with: kubectl apply -f {directory}/\n"])

end ResourceDefinition

end Rollout
