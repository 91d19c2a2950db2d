import Accessors.Generation.Member
import Accessors.Source.Method

/-!
# Batches of accessors

A batch takes requests in order. It writes no method that the source declares already, and none
that it has written itself.
-/

namespace Accessors

inductive Accessor
  | getter
  | setter
  deriving DecidableEq, Repr

inductive Kind
  | getters
  | setters
  | both
  deriving DecidableEq, Repr

def Kind.accessors (setterFirst : Bool) : Kind → List Accessor
  | getters => [.getter]
  | setters => [.setter]
  | both => if setterFirst then [.setter, .getter] else [.getter, .setter]

structure Request where
  accessor : Accessor
  member : Member
  deriving DecidableEq, Repr

namespace Request

def method (r : Request) : Text :=
  match r.accessor with
  | .getter => r.member.getterName
  | .setter => r.member.setterName

def render (t : Template) (r : Request) : Except TemplateError Text :=
  match r.accessor with
  | .getter => r.member.renderGetter t
  | .setter => r.member.renderSetter t

def ofMembers (kind : Kind) (setterFirst : Bool) (ms : List Member) : List Request :=
  ms.flatMap fun m => (kind.accessors setterFirst).map fun a => ⟨a, m⟩

/-- The code of a single request: nothing if the source declares the method. -/
def code (t : Template) (source : Text) (r : Request) : Except TemplateError Text :=
  if Method.declares source r.method then .ok [] else r.render t

end Request

structure Batch where
  code : Text := []
  /-- The methods written, in order. -/
  emitted : List Text := []
  /-- The requested methods that the source declares, repeats kept. -/
  existing : List Text := []
  notices : List Notice := []
  deriving DecidableEq, Repr

namespace Batch

def pass (b : Batch) (method : Text) : Batch :=
  { b with
    existing := b.existing ++ [method], notices := b.notices ++ [.methodPresent method] }

def repeated (b : Batch) (method : Text) : Batch :=
  { b with notices := b.notices ++ [.methodRepeated method] }

def emit (b : Batch) (method code : Text) : Batch :=
  { b with code := b.code ++ code, emitted := b.emitted ++ [method] }

/-- Takes the requests in order and stops at the first that cannot be rendered. -/
def run (t : Template) (source : Text) (b : Batch) : List Request → Batch × Option TemplateError
  | [] => (b, none)
  | r :: rs =>
    if Method.declares source r.method then run t source (b.pass r.method) rs
    else if r.method ∈ b.emitted then run t source (b.repeated r.method) rs
    else
      match r.render t with
      | .ok code => run t source (b.emit r.method code) rs
      | .error e => (b, some e)

end Batch

end Accessors
