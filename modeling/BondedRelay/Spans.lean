import BondedRelay.Table

namespace BondedRelay

structure Span where
  serial : Nat
  name : String
  deriving DecidableEq, Repr

structure Spans where
  opened : Nat
  handles : Table Nat Span
  closed : Table String Nat
  deriving DecidableEq, Repr

namespace Spans

def empty : Spans := ⟨0, .empty, .empty⟩

def closedCount (s : Spans) (name : String) : Nat := s.closed.getD name 0

def release (s : Spans) (span : Span) : Spans :=
  if s.handles.values.contains span then s
  else { s with closed := s.closed.set span.name (s.closedCount span.name + 1) }

def close (s : Spans) (handle : Nat) : Spans :=
  match s.handles.find? handle with
  | some span => { s with handles := s.handles.erase handle }.release span
  | none => s

def attach (s : Spans) (handle : Nat) (span : Span) : Spans :=
  let attached := { s with handles := s.handles.set handle span }
  match s.handles.find? handle with
  | some before => attached.release before
  | none => attached

def openSpan (s : Spans) (handle : Nat) (name : String) : Spans :=
  { s with opened := s.opened + 1 }.attach handle ⟨s.opened, name⟩

def clone (s : Spans) (of handle : Nat) : Spans :=
  match s.handles.find? of with
  | some span => s.attach handle span
  | none => s

end Spans

end BondedRelay
