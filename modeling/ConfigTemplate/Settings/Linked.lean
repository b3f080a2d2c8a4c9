import ConfigTemplate.Settings.Basic
import ConfigTemplate.Yaml.Linked

/-!
# Layers of linked settings

Where a settings file holds the same mapping at several places, a later layer that changes it at
one place changes it at all of them. The layers are the same as for other settings.
-/

namespace ConfigTemplate.Settings.Linked

open Yaml (Container Slot)

/-- Containers with a value stored in one of their mappings. -/
def store (containers : Array Container) (number : Nat) (key : Yaml.Key) (slot : Slot) :
    Array Container :=
  containers.modify number fun container =>
    match container with
    | .map entries => .map (Yaml.Mapping.put key slot entries)
    | other => other

/-- The mapping that is stored under a key of a mapping, by its number. -/
def inner? (containers : Array Container) (number : Nat) (key : Yaml.Key) : Option Nat :=
  match containers[number]? with
  | some (.map entries) =>
    match Yaml.Mapping.get? key entries with
    | some (.shared inner) =>
      if (containers[inner]?).any Container.isMapping then some inner else none
    | _ => none
  | _ => none

mutual

/-- A value among containers: a mapping becomes one of them. -/
def plant (containers : Array Container) : Yaml.Value → Slot × Array Container
  | .map entries =>
    let number := containers.size
    (.shared number, plantIn (containers.push (.map [])) number entries)
  | value => (.own value, containers)

/-- Containers with entries stored in one of their mappings. -/
def plantIn (containers : Array Container) (number : Nat) : Yaml.Mapping → Array Container
  | [] => containers
  | (key, value) :: rest =>
    let (slot, containers) := plant containers value
    plantIn (store containers number key slot) number rest

end

mutual

/-- Containers with the entries of a later layer merged into one of their mappings, one after the
other. -/
def mergeInto (containers : Array Container) (number : Nat) : Yaml.Mapping → Array Container
  | [] => containers
  | (key, value) :: rest => mergeInto (mergeAt containers number key value) number rest

/-- Containers with a value of a later layer merged with the one under a key of a mapping. -/
def mergeAt (containers : Array Container) (number : Nat) (key : Yaml.Key) :
    Yaml.Value → Array Container
  | .map entries =>
    match inner? containers number key with
    | some inner => mergeInto containers inner entries
    | none =>
      let (slot, containers) := plant containers (.map entries)
      store containers number key slot
  | value => store containers number key (.own value)

end

/-- Containers with all the entries of one mapping stored in another one. -/
def storeAll (containers : Array Container) (number : Nat) (entries : List (Yaml.Key × Slot)) :
    Array Container :=
  entries.foldl (fun containers (key, slot) => store containers number key slot) containers

/-- The containers of a settings file with the standard settings below it, and the number of the
mapping of all settings. The standard sections hold no mappings, so that each entry of a section in
the file replaces the standard one. -/
def overStandard (file : Yaml.Linked) (entries : List (Yaml.Key × Slot)) :
    Array Container × Nat :=
  let root := file.containers.size
  let standard := (plant file.containers (.map standard.data)).2
  let add (containers : Array Container) : Yaml.Key × Slot → Array Container
    | (key, slot) =>
      match inner? containers root key, slot with
      | some inner, .shared number =>
        match containers[number]? with
        | some (.map entries) => storeAll containers inner entries
        | _ => store containers root key slot
      | _, _ => store containers root key slot
  (entries.foldl add standard, root)

/-- The settings out of a settings file, whose root has some entries, and overrides. -/
def layered (file : Yaml.Linked) (entries : List (Yaml.Key × Slot)) (overrides : Yaml.Mapping) :
    Settings :=
  let (containers, root) := overStandard file entries
  let linked : Yaml.Linked := ⟨mergeInto containers root overrides, .shared root⟩
  ⟨(linked.value.mapping?).getD []⟩

end ConfigTemplate.Settings.Linked
