/-!
# Symbols

Call stacks are kept as addresses and resolved when a dump is made. All stacks of a dump are
resolved as one batch: every address is looked up once, and its frames stand in one shared table
to which the stacks refer by index. An inlined function makes several frames of one address; an
address that resolves to nothing makes one unknown frame.
-/

namespace RankTrace

structure Symbol where
  name : Option String := none
  file : Option String := none
  line : Option UInt32 := none
  deriving DecidableEq, Inhabited, Repr

structure Frame where
  name : String
  file : String
  line : UInt32
  deriving DecidableEq, Inhabited, Repr

namespace Frame

def unknownText : String := "??"

/-- What is missing shows as unknown, a missing line as zero. -/
def ofSymbol (s : Symbol) : Frame :=
  ⟨s.name.getD unknownText, s.file.getD unknownText, s.line.getD 0⟩

def unknown : Frame := ofSymbol {}

def ofSymbols : List Symbol → List Frame
  | [] => [unknown]
  | symbols => symbols.map ofSymbol

end Frame

abbrev Resolver := UInt64 → List Symbol

abbrev SymbolSource (σ : Type) := UInt64 → σ → List Symbol × σ

def Resolver.source (resolver : Resolver) : SymbolSource Unit :=
  fun address _ => (resolver address, ())

/-- Stacks as indices into a shared table of frames. -/
structure Symbolized where
  frames : List Frame := []
  traces : List (List Nat) := []
  resolved : List (UInt64 × List Nat) := []
  deriving DecidableEq, Inhabited, Repr

namespace Symbolized

variable {σ : Type}

def resolve (source : SymbolSource σ) (address : UInt64) (s : Symbolized) (w : σ) :
    List Nat × Symbolized × σ :=
  match s.resolved.lookup address with
  | some indices => (indices, s, w)
  | none =>
    let (symbols, w) := source address w
    let frames := Frame.ofSymbols symbols
    let indices := List.range' s.frames.length frames.length
    (indices, { s with
      frames := s.frames ++ frames
      resolved := s.resolved ++ [(address, indices)] }, w)

def resolveStack (source : SymbolSource σ) :
    List UInt64 → Symbolized → σ → List Nat × Symbolized × σ
  | [], s, w => ([], s, w)
  | address :: rest, s, w =>
    let (indices, s, w) := resolve source address s w
    let (more, s, w) := resolveStack source rest s w
    (indices ++ more, s, w)

def addStack (source : SymbolSource σ) (stack : Option (List UInt64)) (s : Symbolized) (w : σ) :
    Symbolized × σ :=
  let (indices, s, w) := resolveStack source (stack.getD []) s w
  ({ s with traces := s.traces ++ [indices] }, w)

def addStacks (source : SymbolSource σ) :
    List (Option (List UInt64)) → Symbolized → σ → Symbolized × σ
  | [], s, w => (s, w)
  | stack :: rest, s, w =>
    let (s, w) := addStack source stack s w
    addStacks source rest s w

end Symbolized

def symbolize (resolver : Resolver) (batch : List (Option (List UInt64))) : Symbolized :=
  (Symbolized.addStacks resolver.source batch {} ()).1

end RankTrace
