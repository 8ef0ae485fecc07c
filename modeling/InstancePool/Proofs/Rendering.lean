import Mathlib.Data.List.DropRight
import Mathlib.Data.List.TakeWhile
import Mathlib.Data.List.Nodup
import InstancePool.Agent.Endpoints

/-!
# Addresses in URLs

An agent is told of a message bus that is reached at the address of its instance. The address takes the
place of the host in a URL, and the other parts stay as they are, as far as the URL can be read back.

* `Url.Parted`, `Url.Parted.parse?_render`: URLs whose parts begin where they are looked for, read back
  as they were; `Url.Regular`: the same without separators in the scheme and in a name;
* `Address.urlHost_isHost`: an address is a host of such a URL;
* `Url.replaceHost_keeps_rest`: a URL with another host;
* `Agent.Endpoints.ReachedAt`, `Agent.Endpoints.forAddress_reachedAt`: the message bus at an address.
-/

namespace InstancePool

/-! ## 1. URLs -/

namespace Url

/-- A text that can stand as the host of a URL: a name without any of the characters that end one, or
    anything between brackets. -/
inductive IsHost : List Char → Prop where
  | name {cs : List Char} (path : '/' ∉ cs) (user : '@' ∉ cs) (port : ':' ∉ cs) (bracket : '[' ∉ cs) :
      IsHost cs
  | bracketed {cs : List Char} (path : '/' ∉ cs) (user : '@' ∉ cs) (bracket : ']' ∉ cs) :
      IsHost ('[' :: (cs ++ [']']))

/-- A text that can stand as the port of a URL, with its colon, or nothing. -/
inductive IsPort : List Char → Prop where
  | none : IsPort []
  | number {cs : List Char} (path : '/' ∉ cs) (user : '@' ∉ cs) (port : ':' ∉ cs) : IsPort (':' :: cs)

/-- A URL whose parts can be told apart in its text. -/
structure Regular (u : Url) : Prop where
  scheme : ':' ∉ u.scheme
  userInfo : u.userInfo = [] ∨ ∃ cs, u.userInfo = cs ++ ['@'] ∧ '/' ∉ cs
  host : IsHost u.host
  port : IsPort u.port
  path : u.path = [] ∨ ∃ cs, u.path = '/' :: cs

/-- With another host all parts can still be told apart. -/
theorem Regular.withHost {u : Url} (h : u.Regular) {host : List Char} (hosts : IsHost host) :
    { u with host := host }.Regular :=
  { h with host := hosts }

/-- A text that is read back as the host of a URL: one that has none of the characters that end a host
    and does not begin like a text in brackets, or anything between brackets. -/
inductive ReadAsHost : List Char → Prop where
  | name {cs : List Char} (path : '/' ∉ cs) (user : '@' ∉ cs) (port : ':' ∉ cs)
      (bracket : cs.head? ≠ some '[') : ReadAsHost cs
  | bracketed {cs : List Char} (path : '/' ∉ cs) (user : '@' ∉ cs) (bracket : ']' ∉ cs) :
      ReadAsHost ('[' :: (cs ++ [']']))

/-- A URL whose parts begin where they are looked for: the scheme has no `://` of its own, and the user
    info and the path may hold any of the other separators. -/
structure Parted (u : Url) : Prop where
  scheme : ¬"://".toList <:+: u.scheme
  userInfo : u.userInfo = [] ∨ ∃ cs, u.userInfo = cs ++ ['@'] ∧ '/' ∉ cs
  host : ReadAsHost u.host
  port : IsPort u.port
  path : u.path = [] ∨ ∃ cs, u.path = '/' :: cs

section Characters

variable {cs port : List Char}

theorem IsHost.readAsHost (h : IsHost cs) : ReadAsHost cs := by
  cases h with
  | name path user port bracket =>
    exact .name path user port fun first => bracket (List.mem_of_mem_head? first)
  | bracketed path user bracket => exact .bracketed path user bracket

theorem ReadAsHost.no_path (h : ReadAsHost cs) : '/' ∉ cs := by
  cases h with
  | name path => exact path
  | bracketed path => simpa using path

theorem ReadAsHost.no_user (h : ReadAsHost cs) : '@' ∉ cs := by
  cases h with
  | name _ user => exact user
  | bracketed _ user => simpa using user

theorem IsPort.no_path (h : IsPort port) : '/' ∉ port := by
  cases h with
  | none => exact List.not_mem_nil
  | number path => simpa using path

theorem IsPort.no_user (h : IsPort port) : '@' ∉ port := by
  cases h with
  | none => exact List.not_mem_nil
  | number _ user => simpa using user

/-- A character that does not occur is never come across. -/
theorem all_ne {c : Char} (absent : c ∉ cs) : ∀ a ∈ cs, (a != c) = true := by
  intro a ha
  exact bne_iff_ne.mpr fun same => absent (same ▸ ha)

/-- A scheme ends at the first `://`. -/
theorem cutScheme_append (whole : ¬"://".toList <:+: cs) (rest : List Char) :
    cutScheme (cs ++ ':' :: '/' :: '/' :: rest) = some (cs, rest) := by
  induction cs with
  | nil => rfl
  | cons c cs ih =>
    have later := ih fun inside => whole (List.infix_cons inside)
    rw [List.cons_append, cutScheme]
    · rw [later]
      rfl
    · -- A mark that begins at `c` ends within the scheme, since what follows the scheme begins with a colon.
      intro _ colon slashes
      match cs with
      | [] => cases slashes
      | [_] => cases slashes
      | c₁ :: c₂ :: cs =>
        obtain ⟨rfl, rfl, -⟩ : c₁ = '/' ∧ c₂ = '/' ∧ _ := by simpa using slashes
        exact whole (colon ▸ ⟨[], cs, rfl⟩)

/-- The port is what follows a host. -/
theorem portOf_append (hosts : ReadAsHost cs) (ports : IsPort port) : portOf (cs ++ port) = port := by
  unfold portOf
  cases hosts with
  | name _ _ colon bracket =>
    have plain : (cs ++ port).head? ≠ some '[' := by
      cases cs with
      | nil => cases ports <;> simp
      | cons c cs => exact bracket
    rw [if_neg plain]
    unfold fromLast
    cases ports with
    | none => rw [List.append_nil, if_neg colon]
    | number _ _ again =>
      have backward : ∀ a ∈ _, (a != ':') = true := all_ne (mt List.mem_reverse.mp again)
      rw [if_pos (by simp), List.reverse_append, List.reverse_cons, List.append_assoc,
        List.takeWhile_append_of_pos backward, List.singleton_append,
        List.takeWhile_cons_of_neg (by simp), List.append_nil, List.reverse_reverse]
  | bracketed _ _ bracket =>
    rw [List.cons_append, if_pos List.head?_cons, List.dropWhile_cons_of_pos (p := (· != ']')) rfl,
      List.append_assoc, List.dropWhile_append_of_pos (all_ne bracket), List.singleton_append,
      List.dropWhile_cons_of_neg (by simp), List.drop_one, List.tail_cons]

variable {userInfo : List Char} (ends : userInfo = [] ∨ ∃ cs, userInfo = cs ++ ['@'] ∧ '/' ∉ cs)

include ends

/-- The user info ends with the last at sign. -/
theorem throughLast_append (absent : '@' ∉ cs) : throughLast '@' (userInfo ++ cs) = userInfo := by
  have backward : ∀ a ∈ cs.reverse, (a != '@') = true := all_ne (mt List.mem_reverse.mp absent)
  unfold throughLast
  rw [List.reverse_append, List.dropWhile_append_of_pos backward]
  rcases ends with rfl | ⟨before, rfl, -⟩
  · rfl
  · rw [List.reverse_concat, List.dropWhile_cons_of_neg (by simp), List.reverse_cons, List.reverse_reverse]

theorem afterLast_append (absent : '@' ∉ cs) : afterLast '@' (userInfo ++ cs) = cs := by
  have backward : ∀ a ∈ cs.reverse, (a != '@') = true := all_ne (mt List.mem_reverse.mp absent)
  unfold afterLast
  rw [List.reverse_append, List.takeWhile_append_of_pos backward]
  rcases ends with rfl | ⟨before, rfl, -⟩
  · rw [List.reverse_nil, List.takeWhile_nil, List.append_nil, List.reverse_reverse]
  · rw [List.reverse_concat, List.takeWhile_cons_of_neg (by simp), List.append_nil, List.reverse_reverse]

end Characters

/-- **A URL is read back as it was written.** -/
theorem Parted.parse?_render {u : Url} (h : u.Parted) : parse? u.render = some u := by
  obtain ⟨scheme, userInfo, host, port, path⟩ := u
  obtain ⟨whole, userEnds, hosts, ports, pathBegins⟩ := h
  dsimp only at whole userEnds hosts ports pathBegins
  have text : render ⟨scheme, userInfo, host, port, path⟩ =
      scheme ++ ':' :: '/' :: '/' :: ((userInfo ++ (host ++ port)) ++ path) := by
    simp only [render, List.append_assoc, List.cons_append, List.nil_append]
  have slashless : ∀ a ∈ userInfo ++ (host ++ port), (a != '/') = true := by
    refine all_ne ?_
    have userless : '/' ∉ userInfo := by
      rcases userEnds with rfl | ⟨cs, rfl, absent⟩
      · exact List.not_mem_nil
      · simpa using absent
    simp [userless, hosts.no_path, ports.no_path]
  have authority : ((userInfo ++ (host ++ port)) ++ path).takeWhile (· != '/') =
      userInfo ++ (host ++ port) := by
    rw [List.takeWhile_append_of_pos slashless]
    rcases pathBegins with rfl | ⟨cs, rfl⟩
    · rw [List.takeWhile_nil, List.append_nil]
    · rw [List.takeWhile_cons_of_neg (by simp), List.append_nil]
  have rest : ((userInfo ++ (host ++ port)) ++ path).dropWhile (· != '/') = path := by
    rw [List.dropWhile_append_of_pos slashless]
    rcases pathBegins with rfl | ⟨cs, rfl⟩
    · rfl
    · rw [List.dropWhile_cons_of_neg (by simp)]
  have noUser : '@' ∉ host ++ port := by simp [hosts.no_user, ports.no_user]
  unfold parse?
  rw [text, cutScheme_append whole, Option.map_some]
  dsimp only
  rw [authority, rest, throughLast_append userEnds noUser, afterLast_append userEnds noUser,
    portOf_append hosts ports, List.length_append, Nat.add_sub_cancel, List.take_left]

theorem Regular.parted {u : Url} (h : u.Regular) : u.Parted where
  scheme inside := h.scheme (inside.subset (by decide))
  userInfo := h.userInfo
  host := h.host.readAsHost
  port := h.port
  path := h.path

theorem Regular.parse?_render {u : Url} (h : u.Regular) : parse? u.render = some u :=
  h.parted.parse?_render

end Url

/-! ## 2. Addresses -/

namespace Address

section Characters

variable {c : Char} (digit : ∀ n, Nat.digitChar n ≠ c)

include digit

/-- Numbers are written with digits. -/
theorem not_mem_toDigits {base : Nat} (many : 1 < base) (n : Nat) : c ∉ Nat.toDigits base n := by
  induction n using Nat.strongRecOn with
  | ind n ih =>
    rw [Nat.toDigits_eq_if many]
    split
    · exact fun mem => digit _ (List.mem_singleton.mp mem).symm
    · rename_i large
      have smaller : n / base < n := Nat.div_lt_self (by omega) many
      intro mem
      rcases List.mem_append.mp mem with mem | mem
      · exact ih _ smaller mem
      · exact digit _ (List.mem_singleton.mp mem).symm

theorem not_mem_renderOctets (dot : c ≠ '.') (a b c' d : UInt8) : c ∉ renderOctets a b c' d := by
  have octet := fun n : UInt8 => not_mem_toDigits digit (by decide : 1 < 10) n.toNat
  simp [renderOctets, octet, dot]

variable (colon : c ≠ ':')

include colon

theorem not_mem_renderGroups (groups : List UInt16) : c ∉ renderGroups groups := by
  have group := fun g : UInt16 => not_mem_toDigits digit (by decide : 1 < 16) g.toNat
  induction groups using renderGroups.induct with
  | case1 => exact List.not_mem_nil
  | case2 g => exact group g
  | case3 g rest more ih =>
    rw [renderGroups]
    · simp [group, colon, ih]
    · exact more

theorem not_mem_renderChars (dot : c ≠ '.') (ip : Address) : c ∉ ip.renderChars := by
  have hex : c ≠ 'f' := (digit 15).symm
  cases ip with
  | v4 a b c' d => exact not_mem_renderOctets digit dot a b c' d
  | v6 groups length_eq =>
    unfold renderChars
    dsimp only
    split
    · simp [not_mem_renderOctets digit dot, colon, hex]
    · unfold renderCompressed
      dsimp only
      split
      · simp [not_mem_renderGroups digit colon, colon]
      · exact not_mem_renderGroups digit colon _

end Characters

/-- **An address can stand as the host of a URL.** -/
theorem urlHost_isHost (ip : Address) : Url.IsHost ip.urlHost.toList := by
  cases ip with
  | v4 a b c d =>
    have text : (urlHost (.v4 a b c d)).toList = renderOctets a b c d := String.toList_ofList
    have absent : ∀ m ∈ ['/', '@', ':', '['], m ∉ renderOctets a b c d := by
      intro m hm
      have dot : m ≠ '.' := fun same => absurd (same ▸ hm) (by decide)
      have digit : ∀ n, Nat.digitChar n ≠ m := by
        simp only [List.mem_cons, List.not_mem_nil, or_false] at hm
        rcases hm with rfl | rfl | rfl | rfl <;> exact fun n => Nat.digitChar_ne _ rfl
      exact not_mem_renderOctets digit dot a b c d
    rw [text]
    exact .name (absent _ (by decide)) (absent _ (by decide)) (absent _ (by decide)) (absent _ (by decide))
  | v6 groups length_eq =>
    have text : (urlHost (.v6 groups length_eq)).toList =
        '[' :: ((renderChars (.v6 groups length_eq)) ++ [']']) := by
      simp [urlHost, ToString.toString, render]
    have absent : ∀ m ∈ ['/', '@', ']'], m ∉ renderChars (.v6 groups length_eq) := by
      intro m hm
      have colon : m ≠ ':' := fun same => absurd (same ▸ hm) (by decide)
      have dot : m ≠ '.' := fun same => absurd (same ▸ hm) (by decide)
      have digit : ∀ n, Nat.digitChar n ≠ m := by
        simp only [List.mem_cons, List.not_mem_nil, or_false] at hm
        rcases hm with rfl | rfl | rfl <;> exact fun n => Nat.digitChar_ne _ rfl
      exact not_mem_renderChars digit colon dot _
    rw [text]
    exact .bracketed (absent _ (by decide)) (absent _ (by decide)) (absent _ (by decide))

end Address

/-! ## 3. Another host -/

namespace Url

section Hosts

variable {u : Url} (h : u.Parted)

include h

theorem Parted.withAddress (ip : Address) : { u with host := ip.urlHost.toList }.Parted :=
  { h with host := ip.urlHost_isHost.readAsHost }

/-- **An address takes the place of the host**, and nothing else changes. -/
theorem Parted.replaceHost {url : String} (text : url.toList = u.render) (ip : Address) :
    replaceHost url ip = .ok (String.ofList { u with host := ip.urlHost.toList }.render) := by
  unfold Url.replaceHost
  rw [text, h.parse?_render]

end Hosts

/-- **Another host leaves the rest of a URL as it was**, whatever separators the user info and the path
    hold. Of several hosts that are put in one after another the last one stays. -/
theorem replaceHost_keeps_rest {u : Url} (parted : u.Parted) (first last : Address) :
    let url := String.ofList u.render
    replaceHost url first = .ok (String.ofList (u.scheme ++ "://".toList ++ u.userInfo ++
        first.urlHost.toList ++ u.port ++ u.path)) ∧
      (do replaceHost (← replaceHost url first) last) = replaceHost url last := by
  intro url
  have text : url.toList = u.render := String.toList_ofList
  have replaced := parted.replaceHost text first
  refine ⟨replaced, ?_⟩
  have again := (parted.withAddress first).replaceHost String.toList_ofList last
  rw [replaced, parted.replaceHost text last]
  exact again

/-- Colons, at signs, brackets and a second `://` around the host, which is an IPv6 address and becomes an
    IPv4 address. -/
theorem replaceHost_keeps_rest_among_separators :
    let u : Url := ⟨"a:b".toList, "user:p@ss@".toList, "[fd00::1]".toList, ":4222".toList,
      "/v@1:[2]://x".toList⟩
    let v4 : Address := .v4 10 0 0 9
    let v6 : Address := .v6 [0xFD00, 0, 0, 0, 0, 0, 0, 2] rfl
    u.Parted ∧ String.ofList u.render = "a:b://user:p@ss@[fd00::1]:4222/v@1:[2]://x" ∧
      replaceHost (String.ofList u.render) v4 = .ok "a:b://user:p@ss@10.0.0.9:4222/v@1:[2]://x" ∧
      (do replaceHost (← replaceHost (String.ofList u.render) v4) v6) =
        .ok "a:b://user:p@ss@[fd00::2]:4222/v@1:[2]://x" := by
  intro u v4 v6
  have digits : IsPort (':' :: "4222".toList) := .number (by decide) (by decide) (by decide)
  have literal : ReadAsHost ('[' :: ("fd00::1".toList ++ [']'])) :=
    .bracketed (by decide) (by decide) (by decide)
  have parted : u.Parted := {
    scheme := by decide
    userInfo := .inr ⟨"user:p@ss".toList, rfl, by decide⟩
    host := literal
    port := digits
    path := .inr ⟨"v@1:[2]://x".toList, rfl⟩ }
  obtain ⟨replaced, again⟩ := replaceHost_keeps_rest parted v4 v6
  have last := again.trans (parted.replaceHost String.toList_ofList v6)
  exact ⟨parted, by decide, replaced.trans (congrArg Except.ok (by decide)),
    last.trans (congrArg Except.ok (by decide))⟩

end Url

/-! ## 4. Endpoints -/

namespace Agent

/-- An agent that is told of a message bus is reached at an address: a bus behind `https` is told of
    with that host, and with all else as it was configured. -/
def ReachedAt (configured told : String) (ip : Address) : Prop :=
  ∀ u : Url, u.Regular → u.scheme = "https".toList → configured.toList = u.render →
    Url.parse? told.toList = some { u with host := ip.urlHost.toList }

/-- **The endpoints at an address are reached there.** -/
theorem Endpoints.forAddress_reachedAt {options : Options} {ip : Address} {endpoints : Endpoints}
    (rendered : forAddress options ip = .ok endpoints) :
    ReachedAt options.mbus endpoints.mbus ip := by
  intro u regular https configured
  have secure : options.mbus.toList.take 8 = "https://".toList := by
    rw [configured, Url.render, https]
    rfl
  unfold forAddress at rendered
  rw [if_pos secure, regular.parted.replaceHost configured] at rendered
  cases rendered
  dsimp only
  rw [String.toList_ofList]
  exact (regular.withHost ip.urlHost_isHost).parse?_render

/-- **There are endpoints at every address**, whatever is configured. -/
theorem Endpoints.forAddress_total (options : Options) (ip : Address) :
    ∃ endpoints, forAddress options ip = .ok endpoints := by
  unfold forAddress
  split
  · rename_i secure
    have text : options.mbus.toList =
        "https".toList ++ ':' :: '/' :: '/' :: options.mbus.toList.drop 8 := by
      rw [← List.take_append_drop 8 options.mbus.toList, secure]
      rfl
    have cut : Url.cutScheme options.mbus.toList = some ("https".toList, options.mbus.toList.drop 8) := by
      rw [text, Url.cutScheme_append (by decide)]
      rfl
    unfold Url.replaceHost Url.parse?
    rw [cut]
    exact ⟨_, rfl⟩
  · exact ⟨_, rfl⟩

/-- Where nothing is configured, the message bus is one whose host is replaced. -/
theorem default_bus_regular : ∃ u : Url, u.Regular ∧ u.scheme = "https".toList ∧
    ({} : Options).mbus.toList = u.render := by
  refine ⟨⟨"https".toList, "admin:admin@".toList, "0.0.0.0".toList, ":6868".toList, []⟩, ?_, rfl, rfl⟩
  constructor
  case scheme => decide
  case userInfo => exact .inr ⟨"admin:admin".toList, rfl, by decide⟩
  case host => exact .name (by decide) (by decide) (by decide) (by decide)
  case port =>
    have digits : Url.IsPort (':' :: "6868".toList) := .number (by decide) (by decide) (by decide)
    exact digits
  case path => exact .inl rfl

end Agent

end InstancePool
