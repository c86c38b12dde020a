import ScriptCache.Text.Quoted

/-! Where imported symbols come from.

A resolver knows the addresses of some symbols. A chain asks its resolvers in order and
takes the first answer; joining two chains asks the first and, if it does not know, the
second (`resolve_followedBy`). -/
namespace ScriptCache

/-- A source of addresses. -/
structure Resolver where
  name : String
  resolve : String → Option UInt64

/-- A fixed table of symbols. -/
structure SymbolTable where
  name : String
  symbols : List (String × UInt64) := []
  deriving DecidableEq

namespace SymbolTable

/-- Sets the address of a symbol, in place of any other. -/
def insert (table : SymbolTable) (symbol : String) (address : UInt64) : SymbolTable :=
  { table with
    symbols := (symbol, address) :: table.symbols.filter fun known => known.1 != symbol }

/-- A table filled from a list; of two addresses of one symbol the later counts. -/
def ofList (name : String) (symbols : List (String × UInt64)) : SymbolTable :=
  symbols.foldl (fun table (symbol, address) => table.insert symbol address) { name }

def size (table : SymbolTable) : Nat :=
  table.symbols.length

def isEmpty (table : SymbolTable) : Bool :=
  table.symbols.isEmpty

def resolver (table : SymbolTable) : Resolver where
  name := table.name
  resolve symbol := table.symbols.lookup symbol

end SymbolTable

namespace Resolver

/-- Knows every symbol that begins in a certain way, and gives it the address that lies
behind a base by the size of its remainder. -/
def ofStart (name start : String) (base : UInt64) : Resolver where
  name
  resolve symbol :=
    if start.toList.isPrefixOf symbol.toList then
      some (base + UInt64.ofNat (symbol.utf8ByteSize - start.utf8ByteSize))
    else none

/-- How a resolver that is a function is described. -/
def describe (r : Resolver) : String :=
  s!"LookupFunctionResolver \x7b name: {Text.quoted r.name}, .. \x7d"

end Resolver

/-- Resolvers in the order in which they are asked. -/
structure ResolverChain where
  resolvers : List Resolver := []

namespace ResolverChain

/-- Asks one more resolver after the others. -/
def add (chain : ResolverChain) (r : Resolver) : ResolverChain :=
  ⟨chain.resolvers ++ [r]⟩

/-- Asks another chain after this one. -/
def followedBy (chain fallback : ResolverChain) : ResolverChain :=
  ⟨chain.resolvers ++ fallback.resolvers⟩

/-- The address of a symbol, with the name of the resolver that knew it. -/
def resolve (chain : ResolverChain) (symbol : String) : Option (UInt64 × String) :=
  chain.resolvers.findSome? fun r => (r.resolve symbol).map (·, r.name)

def size (chain : ResolverChain) : Nat :=
  chain.resolvers.length

def isEmpty (chain : ResolverChain) : Bool :=
  chain.resolvers.isEmpty

/-- The names of the resolvers, quoted, in square brackets. -/
def describe (chain : ResolverChain) : String :=
  Text.quotedList (chain.resolvers.map (·.name))

/-- A joined chain asks the first chain and, failing that, the second. -/
theorem resolve_followedBy (chain fallback : ResolverChain) (symbol : String) :
    (chain.followedBy fallback).resolve symbol =
      (chain.resolve symbol).or (fallback.resolve symbol) := by
  simp [followedBy, resolve, List.findSome?_append]

end ResolverChain

end ScriptCache
