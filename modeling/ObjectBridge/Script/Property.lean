import ObjectBridge.Script.Convert

/-!
# `ObjectBridge.Script.Property`: defining properties

A descriptor says some things about a property and leaves others open.
Where a property is there already, what is left open stays; where it is
new, it is off. A property that is not configurable can only be changed
in ways that nobody would notice, and a writable one can still get
another value or stop being writable.
-/

set_option autoImplicit false

namespace ObjectBridge.Script

/-- What is said about a property. -/
structure Descriptor where
  value : Option Value := none
  writable : Option Bool := none
  enumerable : Option Bool := none
  configurable : Option Bool := none
  get : Option Value := none
  set : Option Value := none

/-- Why a property could not be defined. -/
inductive DefineFault
  | notExtensible (key : Key)
  | redefined (key : Key)
  /-- The array must not get longer. -/
  | fixedLength
  /-- This is not the length of any array. -/
  | badLength

/-- The kind of error and its message. -/
def DefineFault.error : DefineFault → String × String
  | .notExtensible key => ("TypeError", "Cannot define property " ++ key.shown ++
    ", object is not extensible")
  | .redefined key => ("TypeError", "Cannot redefine property: " ++ key.shown)
  | .fixedLength => ("TypeError", "length is not writable")
  | .badLength => ("RangeError", "Invalid array length")

namespace Descriptor

def mentionsAccessor (d : Descriptor) : Bool := d.get.isSome || d.set.isSome

/-- A function among the two that an accessor may have. -/
def hasFunction (d : Descriptor) : Bool :=
  (match d.get with
    | some v => !v.isUndefined
    | none => false)
  || (match d.set with
    | some v => !v.isUndefined
    | none => false)

/-- May the descriptor be applied to a property that is there? -/
def permitted (d : Descriptor) (old : Field) : Bool :=
  old.configurable ||
    (d.configurable != some true
      && (d.enumerable.isNone || d.enumerable == some old.enumerable)
      && (match old.slot with
        | .data v =>
          !d.hasFunction
            && (old.writable || (d.writable != some true && (d.value.map (·.same v)).getD true))
        | .accessor g s =>
          d.value.isNone && (d.get.map (·.same g)).getD true && (d.set.map (·.same s)).getD true))

/-- The property that a descriptor makes of another; a new one is made of
one with nothing on. -/
def applied (d : Descriptor) (old : Field) : Field :=
  let (g, s) := match old.slot with
    | .accessor g s => (g, s)
    | .data _ => (.undefined, .undefined)
  let slot := match d.value, old.slot with
    | some v, _ => Slot.data v
    | none, .accessor _ _ => if d.writable.isSome then .data .undefined else old.slot
    | none, slot => slot
  let slot := if d.mentionsAccessor then .accessor (d.get.getD g) (d.set.getD s) else slot
  { slot
    writable := d.writable.getD old.writable
    enumerable := d.enumerable.getD old.enumerable
    configurable := d.configurable.getD old.configurable }

end Descriptor

/-- A property about which nothing has been said. -/
def Field.blank : Field :=
  { slot := .data .undefined, writable := false, enumerable := false, configurable := false }

namespace Heap

/-- The property that results from a definition, or why there is none. -/
def redefine (h : Heap) (o : ObjId) (key : Key) (d : Descriptor) : Except DefineFault Field :=
  match h.own? o key with
  | none => if (h.obj o).extensible then .ok (d.applied .blank) else .error (.notExtensible key)
  | some old => if d.permitted old then .ok (d.applied old) else .error (.redefined key)

/-- Gives an array of some length the length `n`, as a descriptor says. -/
def resize (h : Heap) (o : ObjId) (length n : Nat) (resizable : Bool) (d : Descriptor) :
    Except DefineFault Heap :=
  let refused : DefineFault := .redefined (.name "length")
  if d.configurable == some true || d.enumerable == some true || d.mentionsAccessor then
    .error refused
  else
    let (h, done) := if n = length then (h, true) else if resizable then h.setLength o n
    else (h, false)
    let reopened := !resizable && d.writable == some true
    if !done || reopened then .error refused
    else if d.writable == some false then
      .ok (h.modifyObj o fun x =>
        { x with kind := match x.kind with
            | .array length _ => .array length false
            | kind => kind })
    else .ok h

/-- Defines the length of an array; a value is a number already. -/
def defineLength (h : Heap) (o : ObjId) (length : Nat) (resizable : Bool) (d : Descriptor) :
    Except DefineFault Heap :=
  match d.value with
  | none => h.resize o length length resizable d
  | some v =>
    match arrayLength? v with
    | none => .error .badLength
    | some n => h.resize o length n resizable d

/-- Defines a property of an object that is not native. -/
def define (h : Heap) (o : ObjId) (key : Key) (d : Descriptor) : Except DefineFault Heap :=
  match (h.obj o).kind, key with
  | .array length resizable, .name "length" => h.defineLength o length resizable d
  | .array length resizable, .index i =>
    match h.redefine o key d with
    | .ok f => if length ≤ i && !resizable then .error .fixedLength else .ok (h.put o key f)
    | .error e => .error e
  | _, _ => (h.redefine o key d).map fun f => h.put o key f

/-- What is to be done to store a value in an object that is not native. -/
inductive Stored
  /-- The property becomes this one. -/
  | put (f : Field)
  | nothing
  /-- A function has to be called with the value. -/
  | setter (f : Value)
  /-- A native object among the prototypes has to be asked. -/
  | native (o : ObjId)
  /-- Nothing is stored; what an error would say. -/
  | refused (message : String)

def readOnly (key : Key) : String := "Cannot assign to read only property '" ++ key.shown ++ "'"

/-- Adds a property that the object does not have. -/
def addField (h : Heap) (o : ObjId) (key : Key) (v : Value) : Stored :=
  let x := h.obj o
  if !x.extensible then .refused ("Cannot add property " ++ key.shown ++
    ", object is not extensible")
  else
    match x.kind, key with
    | .array length resizable, .index i =>
      if length ≤ i && !resizable then .refused "length is not writable" else .put (.plain v)
    | _, _ => .put (.plain v)

/-- Stores a value that the prototypes from `above` on have a say in. -/
def storeBelow (h : Heap) (o : ObjId) (above : Option ObjId) (key : Key) (v : Value) : Stored :=
  match h.find above key with
  | .field f =>
    match f.slot with
    | .data _ => if f.writable then h.addField o key v else .refused (readOnly key)
    | .accessor _ set =>
      if !set.isUndefined then .setter set
      else if f.writable then h.addField o key v
      else .refused (readOnly key)
  | .native n => .native n
  | .none => h.addField o key v

/-- Stores a value in a property that is not the length of an array. -/
def store (h : Heap) (o : ObjId) (key : Key) (v : Value) : Stored :=
  match h.own? o key with
  | some f =>
    match f.slot with
    | .data _ =>
      if f.writable then .put { f with slot := .data v }
      else
        match (h.obj o).kind, key with
        | .array _ _, .index _ => .refused ""
        | _, _ => .refused (readOnly key)
    | .accessor _ set =>
      if !set.isUndefined then .setter set
      else if f.writable then .nothing
      else .refused (readOnly key)
  | none => h.storeBelow o (h.obj o).proto key v

/-- Can no property of the object be removed, or, if `constant`, changed
either, and none added? -/
def isFrozen (h : Heap) (o : ObjId) (constant : Bool) : Bool :=
  !(h.obj o).extensible && (h.ownFields o).all fun (_, f) =>
    !f.configurable && (match f.slot with
      | .data _ => !(constant && f.writable)
      | .accessor _ _ => true)

end Heap

end ObjectBridge.Script
