/-
This file defines the operations on the bindings of a chain. A name that is bound already is
shadowed by opening a level on top; levels that end up empty at the top of the stack are dropped,
and a level is changed only in a copy that the tail owns.
-/

import Rewind.Store.Chain

namespace Rewind.Chain

/-- Makes the tail own the level with an index, and returns its copy. -/
def ownLevel (index : Nat) : ChainM Level := fun chain =>
  match chain.tail.levels[index]? with
  | some level => .ok level chain
  | none =>
    match Generation.findLevel? index chain.older with
    | none => .error (.defect (.missingLevel index)) chain
    | some level =>
      match chain.pools.levels.copyLevel level with
      | (copy, levels) =>
        .ok copy { chain with
          tail := chain.tail.putLevel index copy
          pools := { chain.pools with levels := levels } }

/-- Opens an empty level on top of the stack. -/
def openLevel (chain : Chain) : Chain :=
  let index := chain.counters.levelCount
  match chain.pools.levels.newLevel index with
  | (level, levels) =>
    let levels := match chain.tail.levels[index]? with
      | some stale => levels.giveBack stale
      | none => levels
    mapCounters (fun counters => { counters with levelCount := counters.levelCount + 1 })
      { chain with
        tail := chain.tail.putLevel index level
        pools := { chain.pools with levels := levels } }

/-- Whether a name can be bound only in a new level: there is none yet, or the top one binds it. -/
def needsLevel (chain : Chain) (name : String) : Bool :=
  match chain.counters.levelCount with
  | 0 => true
  | top + 1 =>
    match chain.level? top with
    | some level => level.contains name
    | none => true

/-- Binds a name on top of the stack. -/
def push (name : String) (value : Value) : ChainM Unit := do
  modify fun chain => if chain.needsLevel name then chain.openLevel else chain
  let top := (← get).counters.levelCount - 1
  let level ← ownLevel top
  match level.insert name value with
  | .error defect => throw (.defect defect)
  | .ok level =>
    modify fun chain =>
      mapCounters (fun counters => { counters with stackSize := counters.stackSize + 1 })
        (chain.putLevel top level)

/-- The topmost of the lowest `count` levels that binds a name. -/
def levelOfBelow? (chain : Chain) (name : String) : Nat → Option Nat
  | 0 => none
  | index + 1 =>
    match chain.level? index with
    | some level =>
      if level.contains name then some index else chain.levelOfBelow? name index
    | none => chain.levelOfBelow? name index

/-- The topmost level that binds a name. -/
def levelOf? (chain : Chain) (name : String) : Option Nat :=
  chain.levelOfBelow? name chain.counters.levelCount

/-- Drops empty levels off the top of a stack of `count` levels. -/
def dropEmptyLevels : Nat → Chain → Chain
  | 0, chain => chain
  | top + 1, chain =>
    if (chain.level? top).all Level.isEmpty then
      let levels := match chain.tail.levels[top]? with
        | some level => chain.pools.levels.giveBack level
        | none => chain.pools.levels
      dropEmptyLevels top
        (mapCounters (fun counters => { counters with levelCount := top })
          { chain with
            tail := { chain.tail with levels := chain.tail.levels.erase top }
            pools := { chain.pools with levels := levels } })
    else chain

/-- The innermost level that binds a name, as a copy of the tail, and the value bound there. -/
def ownBinding (name : String) : ChainM (Nat × Level × Value) := do
  match (← get).levelOf? name with
  | none => throw (.refused (.unboundName name))
  | some index =>
    let level ← ownLevel index
    match level.get? name with
    | none => throw (.defect (.vanishedBinding name index))
    | some value => return (index, level, value)

/-- Removes the innermost binding of a name, and returns its value. -/
def remove (name : String) : ChainM Value := do
  let (index, level, value) ← ownBinding name
  modify fun chain =>
    let chain := mapCounters (fun counters => { counters with stackSize := counters.stackSize - 1 })
      (chain.putLevel index (level.erase name))
    dropEmptyLevels chain.counters.levelCount chain
  return value

/-- Overwrites the innermost binding of a name, and returns the old value. -/
def replace (name : String) (value : Value) : ChainM Value := do
  let (index, level, old) ← ownBinding name
  modify (putLevel index (level.set name value))
  return old

end Rewind.Chain
