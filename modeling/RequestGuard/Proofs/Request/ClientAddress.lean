import RequestGuard.Proofs.Net.Canonical
import RequestGuard.Proofs.Net.MatchList
import RequestGuard.Proofs.Net.Socket
import RequestGuard.Request.ClientAddress

/-!
# Which address a request comes from

A text names an address if it writes the address, alone or with a port (`NamesAddress`). Behind a
trusted proxy a request comes from the address that the first element of the forwarding header to
name a public one names (`FirstPublic`), and otherwise from the one that the other end of the
connection names, whatever the header says.

What is kept is the canonical text of the address, which every later check reads as that address.
-/

namespace RequestGuard.Request

open Net (IpAddress IsSocketAddress SocketAddress WritesAddress)

/-- A text writes an address, with blanks and brackets around it allowed, or an address and a
port. -/
def NamesAddress (text : String) (address : IpAddress) : Prop :=
  WritesAddress text address ∨ ∃ port, IsSocketAddress (Text.trimChars text.toList) ⟨address, port⟩

/-- A text names an address that is not reserved. -/
def NamesPublic (text : String) (address : IpAddress) :
    Prop := NamesAddress text address ∧ address.isReserved = false

def elements (header : String) : List String := (Text.splitOn ',' header.toList).map String.ofList

/-- The first text that names a public address names this one. -/
def FirstPublic (texts : List String) (address : IpAddress) : Prop :=
  ∃ before text after, texts = before ++ text :: after ∧ NamesPublic text address
    ∧ ∀ earlier ∈ before, ∀ other, ¬ NamesPublic earlier other

theorem addressIn?_eq_some_iff {text : String} {address : IpAddress} :
    addressIn? text = some address ↔ NamesAddress text address := by
  have htrim : IpAddress.parse? (Text.trim text) = IpAddress.parse? text := by
    simp [IpAddress.parse?, Text.trim, Text.trimChars_trimChars]
  have hchars : (Text.trim text).toList = Text.trimChars text.toList := by simp [Text.trim]
  simp only [addressIn?, htrim, hchars]
  constructor
  · intro h
    split at h
    · rename_i read hread
      obtain rfl := Option.some.inj h
      exact .inl (IpAddress.parse?_eq_some_iff.1 hread)
    · obtain ⟨⟨ip, port⟩, hread, rfl⟩ := Option.map_eq_some_iff.1 h
      exact .inr ⟨port, SocketAddress.ofChars?_eq_some_iff.1 hread⟩
  · rintro (hwrites | ⟨port, hsocket⟩)
    · rw [IpAddress.parse?_eq_some_iff.2 hwrites]
    · have hnone : IpAddress.parse? text = none := by
        rw [Option.eq_none_iff_forall_ne_some]
        exact fun other hread => hsocket.not_isAddress other (IpAddress.parse?_eq_some_iff.1 hread)
      rw [hnone, SocketAddress.ofChars?_eq_some_iff.2 hsocket]
      rfl

theorem exists_namesPublic_iff {text : String} :
    (∃ address, NamesPublic text address)
      ↔ ((addressIn? text).any fun address => !address.isReserved) = true := by
  simp [NamesPublic, ← addressIn?_eq_some_iff, Option.any_eq_true]

theorem forwardedAddresses_eq (header : String) :
    forwardedAddresses header = (elements header).filterMap addressIn? := by
  rw [forwardedAddresses, elements, List.filterMap_map, Function.comp_def]

theorem firstPublic_iff {texts : List String} {address : IpAddress} :
    FirstPublic texts address
      ↔ ((texts.filterMap addressIn?).find? fun ip => !ip.isReserved) = some address := by
  induction texts with
  | nil => simp [FirstPublic]
  | cons text texts ih =>
    by_cases hpublic : ∃ ip, NamesPublic text ip
    · obtain ⟨ip, hnames, hopen⟩ := hpublic
      rw [List.filterMap_cons_some (addressIn?_eq_some_iff.2 hnames),
        List.find?_cons_of_pos (by simp [hopen])]
      constructor
      · rintro ⟨before, first, after, hsplit, ⟨hfirst, -⟩, hbefore⟩
        cases before with
        | nil =>
          obtain ⟨rfl, -⟩ := List.cons.inj hsplit
          rw [← addressIn?_eq_some_iff.2 hnames, addressIn?_eq_some_iff.2 hfirst]
        | cons earlier before =>
          obtain ⟨rfl, -⟩ := List.cons.inj hsplit
          exact absurd ⟨hnames, hopen⟩ (hbefore _ List.mem_cons_self ip)
      · intro h
        obtain rfl := Option.some.inj h
        exact ⟨[], text, texts, rfl, ⟨hnames, hopen⟩, by simp⟩
    · have hskip : ((text :: texts).filterMap addressIn?).find? (fun ip => !ip.isReserved)
          = (texts.filterMap addressIn?).find? fun ip => !ip.isReserved := by
        cases hread : addressIn? text with
        | none => rw [List.filterMap_cons_none hread]
        | some ip =>
          have hreserved : ip.isReserved = true := by
            rw [exists_namesPublic_iff, hread] at hpublic
            simpa using hpublic
          rw [List.filterMap_cons_some hread, List.find?_cons_of_neg (by simp [hreserved])]
      rw [hskip, ← ih]
      constructor
      · rintro ⟨before, first, after, hsplit, hfirst, hbefore⟩
        cases before with
        | nil =>
          obtain ⟨rfl, -⟩ := List.cons.inj hsplit
          exact absurd ⟨address, hfirst⟩ hpublic
        | cons earlier before =>
          obtain ⟨-, rfl⟩ := List.cons.inj hsplit
          exact ⟨before, first, after, rfl, hfirst,
            fun other hother => hbefore other (List.mem_cons_of_mem _ hother)⟩
      · rintro ⟨before, first, after, rfl, hfirst, hbefore⟩
        refine ⟨text :: before, first, after, rfl, hfirst, ?_⟩
        rw [List.forall_mem_cons]
        exact ⟨fun other hother => hpublic ⟨other, hother⟩, hbefore⟩

theorem exists_firstPublic {texts : List String}
    (h : ∃ text ∈ texts, ∃ address, NamesPublic text address) :
    ∃ address, FirstPublic texts address := by
  obtain ⟨text, hmem, address, hnames, hopen⟩ := h
  have hfound : ((texts.filterMap addressIn?).find? fun ip => !ip.isReserved).isSome = true := by
    rw [List.find?_isSome]
    exact ⟨address, List.mem_filterMap.2 ⟨text, hmem, addressIn?_eq_some_iff.2 hnames⟩,
      by simp [hopen]⟩
  obtain ⟨first, hfirst⟩ := Option.isSome_iff_exists.1 hfound
  exact ⟨first, firstPublic_iff.2 hfirst⟩

theorem clientAddress?_of_firstPublic {header : String} {address : IpAddress}
    (remote : Option String) (h : FirstPublic (elements header) address) :
    clientAddress? remote (some header) true = some address := by
  have hfirst := firstPublic_iff.1 h
  simp only [clientAddress?, if_true, Option.bind_some, forwardedAddresses_eq, hfirst]

theorem clientAddress?_of_not_public (remote : Option String) {forwarded : Option String}
    {trustProxy : Bool}
    (h : trustProxy = true →
      ∀ header ∈ forwarded, ∀ element ∈ elements header, ∀ address, ¬ NamesPublic element address) :
    clientAddress? remote forwarded trustProxy = remote.bind addressIn? := by
  cases trustProxy with
  | false => rfl
  | true =>
    cases forwarded with
    | none => rfl
    | some header =>
      have hnone :
          ((elements header).filterMap addressIn?).find? (fun ip => !ip.isReserved) = none := by
        rw [Option.eq_none_iff_forall_ne_some]
        intro address hfound
        obtain ⟨before, text, after, hsplit, hnames, -⟩ := firstPublic_iff.2 hfound
        exact h rfl header rfl text (by simp [hsplit]) address hnames
      simp only [clientAddress?, if_true, Option.bind_some, forwardedAddresses_eq, hnone]

theorem isReserved_eq (address : IpAddress) :
    address.isReserved = (Net.reservedEntries.filterMap Net.Network.parse?).any
      fun network => network.covers address := by
  have hfits := @Net.MatchList.fits_ofEntries Net.reservedEntries (by decide)
  rw [Net.MatchList.ofEntries_eq] at hfits
  rw [IpAddress.isReserved, Net.reserved, Net.MatchList.ofEntries_eq,
    Net.MatchList.covers_foldl_insert Net.MatchList.wellFormed_empty hfits,
      Net.MatchList.covers_empty, Bool.false_or]

theorem isReservedText_render (address : IpAddress) :
    Net.isReservedText address.render = address.isReserved := by
  rw [Net.isReservedText, Net.MatchList.coversText, IpAddress.parse?_render]
  rfl

/-- The address of a client is a canonical text, which is read as the address that it was written
for. Behind a trusted proxy it is the address that the first element of the header to name a public
one names, and so never a reserved one; if no element does, or the proxy is not trusted, it is the
one that the other end of the connection names, whatever the header says. -/
theorem clientIp_first_public_or_remote (remote forwarded : Option String) (trustProxy : Bool) :
    (∀ text, clientIp? remote forwarded trustProxy = some text →
        ∃ address, IpAddress.parse? text = some address ∧ address.render = text)
      ∧ (∀ header, trustProxy = true → forwarded = some header →
          (∃ element ∈ elements header, ∃ address, NamesPublic element address) →
          ∃ address, FirstPublic (elements header) address
            ∧ clientIp? remote forwarded trustProxy = some address.render
            ∧ Net.isReservedText address.render = false)
      ∧ ((trustProxy = true → ∀ header ∈ forwarded,
        ∀ element ∈ elements header, ∀ address, ¬ NamesPublic element address) →
          ∀ text, clientIp? remote forwarded trustProxy = some text ↔
            ∃ given address, remote = some given ∧ NamesAddress given address
              ∧ address.render = text)
      ∧ ∀ other, clientIp? remote other false = clientIp? remote forwarded false := by
  refine ⟨?_, ?_, ?_, fun other => rfl⟩
  · intro text h
    obtain ⟨address, -, rfl⟩ := Option.map_eq_some_iff.1 h
    exact ⟨address, IpAddress.parse?_render address, rfl⟩
  · rintro header rfl rfl hpublic
    obtain ⟨address, hfirst⟩ := exists_firstPublic hpublic
    obtain ⟨before, text, after, -, ⟨-, hopen⟩, -⟩ := id hfirst
    refine ⟨address, hfirst, ?_, ?_⟩
    · rw [clientIp?, clientAddress?_of_firstPublic remote hfirst, Option.map_some]
    · rw [isReservedText_render, hopen]
  · intro hnone text
    rw [clientIp?, clientAddress?_of_not_public remote hnone, Option.map_eq_some_iff]
    simp only [Option.bind_eq_some_iff, addressIn?_eq_some_iff]
    constructor
    · rintro ⟨address, ⟨given, hgiven, hnames⟩, htext⟩
      exact ⟨given, address, hgiven, hnames, htext⟩
    · rintro ⟨given, address, hgiven, hnames, htext⟩
      exact ⟨address, ⟨given, hgiven, hnames⟩, htext⟩

/-- The first elements of one header name nothing and a private address, and the other header names
no public address. -/
theorem clientIp_behind_proxy :
    clientIp? (some "127.0.0.1") (some "unknown, 10.0.0.1, [2600:DB9:0:0::1]:443, 8.8.8.8") true
        = some "2600:db9::1"
      ∧ clientIp? (some "[::ffff:127.0.0.1%1]:80") (some "unknown, 10.0.0.1") true
        = some "::ffff:127.0.0.1"
      ∧ ∃ address, IpAddress.parse? "::ffff:127.0.0.1" = some address
        ∧ address.render = "::ffff:127.0.0.1" := by
  obtain ⟨-, hpublic, -, -⟩ := clientIp_first_public_or_remote (some "127.0.0.1")
    (some "unknown, 10.0.0.1, [2600:DB9:0:0::1]:443, 8.8.8.8") true
  obtain ⟨hcanonical, -, hremote, -⟩ :=
    clientIp_first_public_or_remote (some "[::ffff:127.0.0.1%1]:80")
    (some "unknown, 10.0.0.1") true
  have hfound : FirstPublic (elements "unknown, 10.0.0.1, [2600:DB9:0:0::1]:443, 8.8.8.8")
      (.v6 0x26000db9000000000000000000000001) := by
    simp only [firstPublic_iff, isReserved_eq]
    decide +kernel
  obtain ⟨before, text, after, hsplit, hnames, -⟩ := id hfound
  have hnone :
      ∀ element ∈ elements "unknown, 10.0.0.1", ¬ ∃ address, NamesPublic element address := by
    simp only [exists_namesPublic_iff, isReserved_eq]
    decide +kernel
  have hgiven :
      addressIn? "[::ffff:127.0.0.1%1]:80" = some (.v6 0xffff7f000001) := by decide +kernel
  have hclient : clientIp? (some "[::ffff:127.0.0.1%1]:80") (some "unknown, 10.0.0.1") true
      = some "::ffff:127.0.0.1" := by
    refine (hremote ?_ _).2 ⟨_, _, rfl, addressIn?_eq_some_iff.1 hgiven, by decide +kernel⟩
    rintro - header ⟨⟩ element helement address hnames
    exact hnone element helement ⟨address, hnames⟩
  refine ⟨?_, hclient, hcanonical _ hclient⟩
  obtain ⟨address, hfirst, hrender, -⟩ := hpublic _ rfl rfl ⟨text, by simp [hsplit], _, hnames⟩
  have haddress : address = .v6 0x26000db9000000000000000000000001 :=
    Option.some.inj ((firstPublic_iff.1 hfirst).symm.trans (firstPublic_iff.1 hfound))
  rw [hrender, haddress]
  decide +kernel

end RequestGuard.Request
