import RequestGuard.Net.PrefixTrie

/-!
# Lists of networks

A list of addresses and networks of both families, against which an address is matched in at most
one walk down a trie for each family.
-/

namespace RequestGuard.Net

/-- Why an entry is not added to a list. -/
inductive EntryError where
  | invalidEntry (text : String)
deriving DecidableEq, Repr

def EntryError.message : EntryError → String
  | .invalidEntry text => "Invalid IP address or CIDR notation: " ++ text

/-- A list of networks: a trie for each family and the number of entries added. -/
structure MatchList where
  v4 : PrefixTrie 32
  v6 : PrefixTrie 128
  size : Nat
deriving DecidableEq, Repr

namespace MatchList

def empty : MatchList := ⟨.empty, .empty, 0⟩

instance : Inhabited MatchList := ⟨empty⟩

def insert (list : MatchList) : Network → MatchList
  | .v4 block => { list with v4 := list.v4.insert block, size := list.size + 1 }
  | .v6 block => { list with v6 := list.v6.insert block, size := list.size + 1 }

/-- Adds an entry; the error names the entry without the blanks around it. -/
def add (list : MatchList) (entry : String) : Except EntryError MatchList :=
  match Network.parse? entry with
  | some network => .ok (list.insert network)
  | none => .error (.invalidEntry (Text.trim entry))

/-- The list of the entries that can be read. -/
def ofEntries (entries : List String) : MatchList :=
  entries.foldl (fun list entry => (list.add entry).toOption.getD list) empty

/-- Whether an address lies in a network of the list. An address that maps IPv4 is also looked up
as the address that it maps. -/
def covers (list : MatchList) : IpAddress → Bool
  | .v4 bits => list.v4.contains bits
  | .v6 bits =>
    list.v6.contains bits ||
      match mapped? bits with
      | some inner => list.v4.contains inner
      | none => false

/-- Whether a text is an address that lies in a network of the list. -/
def coversText (list : MatchList) (text : String) : Bool :=
  match IpAddress.parse? text with
  | some address => list.covers address
  | none => false

def isEmpty (list : MatchList) : Bool := list.size == 0

end MatchList

end RequestGuard.Net
