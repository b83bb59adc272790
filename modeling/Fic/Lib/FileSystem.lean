import Mathlib.Data.Option.Basic

/-!
# Names and objects

A file system is a table of names and a table of the objects they name.  A
name never points at an object that does not exist.

`SameAt` says that a name still means the same object with the same content.
It is kept by everything that is done under other names to new objects.
-/

namespace Fic.Lib

structure FileSystem (Name Object Node : Type) where
  entry : Name → Option Object
  node : Object → Option Node
  linked : ∀ name object, entry name = some object → node object ≠ none

namespace FileSystem

variable {Name Object Node : Type} [DecidableEq Name] [DecidableEq Object]

def create (fs : FileSystem Name Object Node) (name : Name) (object : Object) (node : Node) :
    FileSystem Name Object Node where
  entry := Function.update fs.entry name (some object)
  node := Function.update fs.node object (some node)
  linked := by
    intro other target htarget
    by_cases hobject : target = object
    · simp [hobject]
    · rw [Function.update_of_ne hobject]
      by_cases hname : other = name
      · subst hname
        rw [Function.update_self, Option.some.injEq] at htarget
        exact absurd htarget.symm hobject
      · rw [Function.update_of_ne hname] at htarget
        exact fs.linked other target htarget

def write (fs : FileSystem Name Object Node) (object : Object) (node : Node) :
    FileSystem Name Object Node where
  entry := fs.entry
  node := Function.update fs.node object (some node)
  linked := by
    intro other target htarget
    by_cases hobject : target = object
    · simp [hobject]
    · rw [Function.update_of_ne hobject]
      exact fs.linked other target htarget

def link (fs : FileSystem Name Object Node) (source target : Name) :
    FileSystem Name Object Node where
  entry := Function.update fs.entry target (fs.entry source)
  node := fs.node
  linked := by
    intro other object hobject
    by_cases hother : other = target
    · subst hother
      rw [Function.update_self] at hobject
      exact fs.linked source object hobject
    · rw [Function.update_of_ne hother] at hobject
      exact fs.linked other object hobject

/-- The name is gone; the object stays. -/
def unlink (fs : FileSystem Name Object Node) (name : Name) : FileSystem Name Object Node where
  entry := Function.update fs.entry name none
  node := fs.node
  linked := by
    intro other object hobject
    by_cases hother : other = name
    · subst hother
      simp at hobject
    · rw [Function.update_of_ne hother] at hobject
      exact fs.linked other object hobject

def rename (fs : FileSystem Name Object Node) (source target : Name) :
    FileSystem Name Object Node :=
  (fs.link source target).unlink source

/-- The name still names the same object, in the same state. -/
structure SameAt (before after : FileSystem Name Object Node) (name : Name) : Prop where
  entry : after.entry name = before.entry name
  node : ∀ object, before.entry name = some object → after.node object = before.node object

section Frame

variable {before after : FileSystem Name Object Node} {name other : Name} {object : Object}
  {node : Node}

omit [DecidableEq Name] [DecidableEq Object] in
theorem SameAt.refl (fs : FileSystem Name Object Node) (name : Name) : SameAt fs fs name :=
  ⟨rfl, fun _ _ => rfl⟩

omit [DecidableEq Name] in
theorem SameAt.write (h : SameAt before after name) (hnew : before.node object = none) :
    SameAt before (after.write object node) name where
  entry := h.entry
  node := by
    intro named hnamed
    have hne : named ≠ object := by
      rintro rfl
      exact before.linked name named hnamed hnew
    exact (Function.update_of_ne hne ..).trans (h.node named hnamed)

theorem SameAt.create (h : SameAt before after name) (hname : name ≠ other)
    (hnew : before.node object = none) : SameAt before (after.create other object node) name where
  entry := (Function.update_of_ne hname ..).trans h.entry
  node := (h.write hnew).node

omit [DecidableEq Object] in
theorem SameAt.unlink (h : SameAt before after name) (hname : name ≠ other) :
    SameAt before (after.unlink other) name where
  entry := (Function.update_of_ne hname ..).trans h.entry
  node := h.node

end Frame

end FileSystem

end Fic.Lib
