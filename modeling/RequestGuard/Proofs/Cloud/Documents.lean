import RequestGuard.Cloud.FirewallLists
import RequestGuard.Proofs.Json.Format

/-!
# The documents of the control plane

What the control plane serves, each document with its format: the names of its members, and what a
member that is missing stands for. No service depends on the order in which another one writes these
members, on its writing all of them, or on its writing nothing else.
-/

namespace RequestGuard.Cloud

open Json (Format Tree Value Whole)

namespace RateLimit

def fields : List Json.Shape.Field :=
  [Format.bool.field "enabled" false,
    Format.uint64.field "maxRequests" 0,
    Format.uint64.field "windowSizeInMS" 0]

def format : Format RateLimit :=
  .record fields toJson ofJson? (fun _ => rfl) (fun _ => rfl) (by decide) (fun _ => rfl)
    (fun _ => by
      simp only [List.forall_mem_cons]
      exact ⟨Format.bool.whole _, Format.uint64.whole _, Format.uint64.whole _, nofun⟩)
    (.get .bool (by simp [fields]) fun _ =>
      .get .uint64 (by simp [fields]) fun _ =>
        .get .uint64 (by simp [fields]) fun _ => .pure _)
    (fun _ => .get .bool rfl <| .get .uint64 rfl <| .get .uint64 rfl <| .pure ..)

end RateLimit

namespace Endpoint

def fields : List Json.Shape.Field :=
  [Format.string.field "method" "",
    Format.string.field "route" "",
    Format.bool.field "forceProtectionOff" false,
    Format.string.list.field "allowedIPAddresses" [],
    RateLimit.format.field "rateLimiting" {}]

def format : Format Endpoint :=
  .record fields toJson ofJson? (fun _ => rfl) (fun _ => rfl) (by decide) (fun _ => rfl)
    (fun _ => by
      simp only [List.forall_mem_cons]
      exact ⟨Format.string.whole _, Format.string.whole _, Format.bool.whole _,
        Format.string.list.whole _,
        RateLimit.format.whole _, nofun⟩)
    (.get .string (by simp [fields]) fun _ =>
      .get .string (by simp [fields]) fun _ =>
        .get .bool (by simp [fields]) fun _ =>
          .get (.list .string) (by simp [fields]) fun _ =>
            .get RateLimit.format (by simp [fields]) fun _ => .pure _)
    (fun _ => .get .string rfl <| .get .string rfl <| .get .bool rfl <| .get (.list .string) rfl <|
      .get RateLimit.format rfl <| .pure ..)

end Endpoint

namespace Config

def fields : List Json.Shape.Field :=
  [Format.bool.field "success" false,
    Format.uint64.field "serviceId" 0,
    Format.int64.field "configUpdatedAt" 0,
    Format.uint64.field "heartbeatIntervalInMS" 0,
    Endpoint.format.list.field "endpoints" [],
    Format.string.list.field "blockedUserIds" [],
    Format.string.list.field "allowedIPAddresses" [],
    Format.bool.field "receivedAnyStats" false,
    Format.optionalBool.field "block" none]

def format : Format Config :=
  .record fields toJson ofJson? (fun _ => rfl) (fun _ => rfl) (by decide) (fun _ => rfl)
    (fun _ => by
      simp only [List.forall_mem_cons]
      exact ⟨Format.bool.whole _, Format.uint64.whole _, Format.int64.whole _,
        Format.uint64.whole _,
        Endpoint.format.list.whole _, Format.string.list.whole _, Format.string.list.whole _,
          Format.bool.whole _,
        Format.optionalBool.whole _, nofun⟩)
    (.get .bool (by simp [fields]) fun _ =>
      .get .uint64 (by simp [fields]) fun _ =>
        .get .int64 (by simp [fields]) fun _ =>
          .get .uint64 (by simp [fields]) fun _ =>
            .get (.list Endpoint.format) (by simp [fields]) fun _ =>
              .get (.list .string) (by simp [fields]) fun _ =>
                .get (.list .string) (by simp [fields]) fun _ =>
                  .get .bool (by simp [fields]) fun _ =>
                    .get .optionalBool (by simp [fields]) fun _ => .pure _)
    (fun _ => .get .bool rfl <| .get .uint64 rfl <| .get .int64 rfl <| .get .uint64 rfl <|
      .get (.list Endpoint.format) rfl <| .get (.list .string) rfl <|
        .get (.list .string) rfl <| .get .bool rfl <|
      .get .optionalBool rfl <| .pure ..)

end Config

namespace ConfigVersion

def fields : List Json.Shape.Field := [Format.int64.field "configUpdatedAt" 0]

def format : Format ConfigVersion :=
  .record fields toJson ofJson? (fun _ => rfl) (fun _ => rfl) (by decide) (fun _ => rfl)
    (fun _ => by
      simp only [List.forall_mem_cons]
      exact ⟨Format.int64.whole _, nofun⟩)
    (.get .int64 (by simp [fields]) fun _ => .pure _)
    (fun _ => .get .int64 rfl <| .pure ..)

end ConfigVersion

namespace Blocklist

def fields : List Json.Shape.Field :=
  [Format.string.field "source" "",
    Format.string.field "description" "",
    Format.string.list.field "ips" []]

def format : Format Blocklist :=
  .record fields toJson ofJson? (fun _ => rfl) (fun _ => rfl) (by decide) (fun _ => rfl)
    (fun _ => by
      simp only [List.forall_mem_cons]
      exact ⟨Format.string.whole _, Format.string.whole _, Format.string.list.whole _, nofun⟩)
    (.get .string (by simp [fields]) fun _ =>
      .get .string (by simp [fields]) fun _ =>
        .get (.list .string) (by simp [fields]) fun _ => .pure _)
    (fun _ => .get .string rfl <| .get .string rfl <| .get (.list .string) rfl <| .pure ..)

end Blocklist

namespace FirewallLists

def fields : List Json.Shape.Field :=
  [Blocklist.format.list.field "blockedIPAddresses" [],
    Format.string.field "blockedUserAgents" ""]

def format : Format FirewallLists :=
  .record fields toJson ofJson? (fun _ => rfl) (fun _ => rfl) (by decide) (fun _ => rfl)
    (fun _ => by
      simp only [List.forall_mem_cons]
      exact ⟨Blocklist.format.list.whole _, Format.string.whole _, nofun⟩)
    (.get (.list Blocklist.format) (by simp [fields]) fun _ =>
      .get .string (by simp [fields]) fun _ => .pure _)
    (fun _ => .get (.list Blocklist.format) rfl <| .get .string rfl <| .pure ..)

end FirewallLists

/-- Each document is read from its text, and from every text that writes the members of its records
in another order, such as that of the declaration, has further members, or does without members that
have their defaults. -/
theorem documents_round_trip :
    Json.RoundTrips (.record Config.fields) Config.toJson Config.ofJson? ∧
      Json.RoundTrips (.record ConfigVersion.fields) ConfigVersion.toJson ConfigVersion.ofJson? ∧
        Json.RoundTrips (.record FirewallLists.fields) FirewallLists.toJson FirewallLists.ofJson? :=
  ⟨Config.format.roundTrips, ConfigVersion.format.roundTrips, FirewallLists.format.roundTrips⟩

/-- A newer control plane tells a version and how long a list holds, and leaves out what is
empty. -/
theorem documents_round_trip_newer_lists :
    (Tree.parse?
      "\x7b\"v\":2,\"blockedIPAddresses\":[\x7b\"ips\":[\"::1\"],\"ttl\":60,\"source\":\"feed\"\x7d]\x7d").bind
        FirewallLists.ofJson?
      = some { blocklists := [{ source := "feed", ips := ["::1"] }] } := by
  let newerList : Value :=
    .object [("ips", .array [.string "::1"]), ("ttl", .ofNat 60), ("source", .string "feed")]
  let newer : Value := .object [("v", .ofNat 2), ("blockedIPAddresses", .array [newerList])]
  have hlist : Tree.Variant (.record Blocklist.fields)
      (.ofValue (Blocklist.toJson { source := "feed", ips := ["::1"] })) (.ofValue newerList) :=
    .trans (.single (.leaveOut (Format.string.field "description" "") (by simp [Blocklist.fields])))
      (.trans (.single (.add "ttl" (.ofValue (.ofNat 60)) (by decide)))
        (.single (.reorder (.swap ..))))
  have hlists : Tree.Variant (.record FirewallLists.fields)
      (.ofValue (FirewallLists.toJson { blocklists := [{ source := "feed", ips := ["::1"] }] }))
      (.ofValue newer) :=
    .trans (.single (.reorder (.swap ..)))
      (.trans (.single (.leaveOut (Format.string.field "blockedUserAgents" "")
        (by simp [FirewallLists.fields])))
        (.trans
          (Tree.Variant.member (Blocklist.format.list.field "blockedIPAddresses" [])
            (by simp [FirewallLists.fields])
            (hlist.item [] []) [])
          (.single (.add "v" (.ofValue (.ofNat 2)) (by decide)))))
  have hnewerList : Whole newerList := by
    refine .object ?_
    simp only [List.forall_mem_cons]
    exact ⟨Format.string.list.whole ["::1"], Format.uint64.whole 60, .string _, nofun⟩
  have hnewer : Whole newer := by
    refine .object ?_
    simp only [List.forall_mem_cons]
    exact ⟨Format.uint64.whole 2, .array (by simpa using hnewerList), nofun⟩
  have htext : newer.render
      = "\x7b\"v\":2,\"blockedIPAddresses\":[\x7b\"ips\":[\"::1\"],\"ttl\":60,\"source\":\"feed\"\x7d]\x7d" := by
    decide +kernel
  rw [← htext]
  exact (documents_round_trip.2.2 _).2 _ _ (Tree.parse?_render hnewer) hlists

end RequestGuard.Cloud
