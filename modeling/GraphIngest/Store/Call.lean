import GraphIngest.Dialogue
import GraphIngest.Event
import GraphIngest.Store.Result

/-!
# Calls to the store

## Main definitions

* `StoreCall`: what a store can be asked to do.
* `StoreDialogue`: work that calls a store.
-/

namespace GraphIngest

/-- What a store can be asked to do. -/
inductive StoreCall where
  /-- Write objects together. -/
  | batch (objects : List StoreObject)
  /-- Add a reference from a node's object to another object. -/
  | reference (source property targetClass target : String)
  deriving DecidableEq, Repr, Inhabited

/-- What a store answers to a call. -/
abbrev StoreCall.Answer : StoreCall → Type
  | batch _ => Except Error (List ObjectResult)
  | reference .. => Except Error Unit

/-- Work that calls a store and tells events. -/
abbrev StoreDialogue := Dialogue StoreCall StoreCall.Answer Event

/-- Someone who answers the calls. -/
abbrev Store := Dialogue.Partner StoreCall StoreCall.Answer

/-- The call that creates a relationship between stored nodes. -/
def Relationship.call (r : Relationship) : StoreCall :=
  .reference r.source r.type nodeClass r.target

namespace StoreDialogue

/-- Write objects together. -/
def batch (objects : List StoreObject) : StoreDialogue (Except Error (List ObjectResult)) :=
  Dialogue.question (StoreCall.batch objects)

/-- Create a relationship between stored nodes. -/
def create (r : Relationship) : StoreDialogue (Except Error Unit) := Dialogue.question r.call

end StoreDialogue

end GraphIngest
