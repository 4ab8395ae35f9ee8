import OnlyTwo.ServerConfig

/-!
Whose address a request counts for: `ClientIP` of internal/ws/hub.go. The parsers of
`net` and `netip` are parameters. A header may come in several lines; `Header.Get` reads
the first of them, while a proxy that appends an entry may append it as a line.
-/

namespace OnlyTwo.Relay

/-- `net` and `netip`, as far as the hub uses them. -/
structure Net (Addr Prefix : Type) where
  /-- The host that `net.SplitHostPort` finds. -/
  splitHostPort : String → Option String
  /-- `net.ParseIP` finds an address. -/
  parseIp : String → Bool
  parseAddr : String → Option Addr
  parsePrefix : String → Option Prefix
  contains : Prefix → Addr → Bool
  /-- The empty text is no address. -/
  parseIp_empty : parseIp "" = false

/-- The values of a header, line by line. -/
structure Request where
  remoteAddr : String
  forwardedFor : List String
  realIp : List String
  deriving DecidableEq

/-- `Header.Get`. -/
def headerGet (values : List String) : String := values.headD ""

section Address
variable {Addr Prefix : Type} [DecidableEq Addr] (net : Net Addr Prefix)
variable (trustedProxies : List String)

def remoteHost (remoteAddr : String) : String :=
  match net.splitHostPort remoteAddr with
  | none => remoteAddr
  | some host => host

def isTrustedProxy (ip : String) : Bool :=
  match net.parseAddr ip with
  | none => false
  | some addr => trustedProxies.any fun entry =>
      let entry := ServerConfig.trimSpace entry
      entry != "" && ((net.parsePrefix entry).any (net.contains · addr) ||
        net.parseAddr entry == some addr)

/-- The loop over the parts of the header, from the last one on. -/
def scanForwarded : List String → Option String
  | [] => none
  | part :: rest =>
      let ip := ServerConfig.trimSpace part
      if !net.parseIp ip then scanForwarded rest
      else if !isTrustedProxy net trustedProxies ip then some ip
      else scanForwarded rest

def clientIp (request : Request) : String :=
  let remote := remoteHost net request.remoteAddr
  if !isTrustedProxy net trustedProxies remote then remote
  else
    let xff := headerGet request.forwardedFor
    let forwarded :=
      if xff ≠ "" then scanForwarded net trustedProxies (ServerConfig.splitCommas xff).reverse
      else none
    match forwarded with
    | some ip => ip
    | none =>
        let ip := ServerConfig.trimSpace (headerGet request.realIp)
        if net.parseIp ip then ip else remote

end Address

section Spoofing
variable {Addr Prefix : Type} [DecidableEq Addr] (net : Net Addr Prefix)
variable (trustedProxies : List String)

/-- The entries of a header line. -/
def entries (line : String) : List String := (ServerConfig.splitCommas line).map ServerConfig.trimSpace

/-- The last entry of the header over all of its lines. -/
def lastEntry (lines : List String) : Option String := (lines.flatMap entries).getLast?

/-- An address of someone who is no trusted proxy. -/
def outside (ip : String) : Bool := net.parseIp ip && !isTrustedProxy net trustedProxies ip

/-- Requests that reach the relay from one peer in as many lines with one last entry. They
may differ in everything before that entry and in `X-Real-IP`. -/
structure SameHop (request other : Request) : Prop where
  remoteAddr : other.remoteAddr = request.remoteAddr
  lines : other.forwardedFor.length = request.forwardedFor.length
  last : lastEntry other.forwardedFor = lastEntry request.forwardedFor

/-- What a client can write changes nothing: a request counts for its remote host, or for the
entry that the trusted hop appended. -/
structure Unspoofed (request : Request) : Prop where
  direct : isTrustedProxy net trustedProxies (remoteHost net request.remoteAddr) = false →
    ∀ other : Request, other.remoteAddr = request.remoteAddr →
      clientIp net trustedProxies other = remoteHost net request.remoteAddr
  appended : isTrustedProxy net trustedProxies (remoteHost net request.remoteAddr) = true →
    ∀ entry, lastEntry request.forwardedFor = some entry →
      outside net trustedProxies entry = true →
      ∀ other, SameHop request other → clientIp net trustedProxies other = entry

variable {net} {trustedProxies}

theorem scanForwarded_eq (parts : List String) :
    scanForwarded net trustedProxies parts =
      (parts.map ServerConfig.trimSpace).find? (outside net trustedProxies) := by
  induction parts with
  | nil => rfl
  | cons part rest ih =>
      simp only [scanForwarded, List.map_cons, List.find?_cons, outside]
      cases net.parseIp (ServerConfig.trimSpace part) with
      | false => simpa [outside] using ih
      | true =>
          cases isTrustedProxy net trustedProxies (ServerConfig.trimSpace part) with
          | false => rfl
          | true => simpa [outside] using ih

theorem entries_empty : entries "" = [""] := by decide +kernel

theorem entries_ne_nil (line : String) : entries line ≠ [] := by
  simp [entries, ServerConfig.splitCommas, List.splitOn_ne_nil]

theorem outside_empty : outside net trustedProxies "" = false := by
  rw [outside, net.parseIp_empty, Bool.false_and]

/-- Behind a trusted proxy: the last outside address of the first line, else `X-Real-IP`. -/
theorem clientIp_trusted {request : Request}
    (proxy : isTrustedProxy net trustedProxies (remoteHost net request.remoteAddr) = true) :
    clientIp net trustedProxies request =
      ((entries (headerGet request.forwardedFor)).reverse.find? (outside net trustedProxies)).getD
        (if net.parseIp (ServerConfig.trimSpace (headerGet request.realIp)) then
          ServerConfig.trimSpace (headerGet request.realIp)
        else remoteHost net request.remoteAddr) := by
  have scanned : (if headerGet request.forwardedFor ≠ "" then
      scanForwarded net trustedProxies (ServerConfig.splitCommas (headerGet request.forwardedFor)).reverse
      else none) =
        (entries (headerGet request.forwardedFor)).reverse.find? (outside net trustedProxies) := by
    by_cases empty : headerGet request.forwardedFor = ""
    · rw [if_neg (not_not.mpr empty), empty, entries_empty]
      simp [outside_empty]
    · rw [if_pos empty, scanForwarded_eq, List.map_reverse]
      rfl
  simp only [clientIp, proxy, Bool.not_true, Bool.false_eq_true, if_false, scanned]
  cases (entries (headerGet request.forwardedFor)).reverse.find? (outside net trustedProxies) <;> rfl

/-- The one line of a request names the entry that was appended to it. -/
theorem clientIp_single {request : Request}
    (proxy : isTrustedProxy net trustedProxies (remoteHost net request.remoteAddr) = true)
    (single : request.forwardedFor.length ≤ 1) {entry : String}
    (last : lastEntry request.forwardedFor = some entry)
    (named : outside net trustedProxies entry = true) :
    clientIp net trustedProxies request = entry := by
  rw [clientIp_trusted proxy]
  cases lines : request.forwardedFor with
  | nil =>
      rw [lines] at last
      cases last
  | cons line rest =>
      rw [lines, List.length_cons] at single
      have alone : rest = [] := List.length_eq_zero_iff.mp (by omega)
      rw [lines, alone, lastEntry, List.flatMap_cons, List.flatMap_nil, List.append_nil] at last
      obtain ⟨before, whole⟩ := List.getLast?_eq_some_iff.mp last
      have first : headerGet (line :: rest) = line := rfl
      rw [first, whole, List.reverse_append, List.reverse_singleton, List.singleton_append,
        List.find?_cons_of_pos named, Option.getD_some]

/-- An empty first line in front of the others, and no `X-Real-IP`. -/
def Request.blanked (request : Request) : Request :=
  { request with
    forwardedFor := "" :: request.forwardedFor.tail
    realIp := [] }

theorem lastEntry_tail {first : String} {rest : List String} (more : rest ≠ []) :
    lastEntry (first :: rest) = lastEntry rest := by
  have present : (rest.flatMap entries).getLast?.isSome = true := by
    rw [List.getLast?_isSome]
    intro none
    obtain ⟨line, later, rfl⟩ := List.exists_cons_of_ne_nil more
    exact entries_ne_nil line (List.append_eq_nil_iff.mp none).1
  rw [lastEntry, List.flatMap_cons, List.getLast?_append, Option.or_of_isSome present, lastEntry]

theorem blanked_sameHop {request : Request} (several : 1 < request.forwardedFor.length) :
    SameHop request request.blanked := by
  cases lines : request.forwardedFor with
  | nil =>
      rw [lines] at several
      cases several
  | cons line rest =>
      rw [lines, List.length_cons] at several
      have more : rest ≠ [] := by
        rintro rfl
        simp at several
      refine ⟨rfl, ?_, ?_⟩
      · simp [Request.blanked, lines]
      · simp only [Request.blanked, lines, List.tail_cons]
        rw [lastEntry_tail more, lastEntry_tail more]

/-- Then the request counts for the proxy itself. -/
theorem clientIp_blanked {request : Request}
    (proxy : isTrustedProxy net trustedProxies (remoteHost net request.remoteAddr) = true) :
    clientIp net trustedProxies request.blanked = remoteHost net request.remoteAddr := by
  have same : remoteHost net request.blanked.remoteAddr = remoteHost net request.remoteAddr := rfl
  have first : headerGet request.blanked.forwardedFor = "" := rfl
  have missing : ServerConfig.trimSpace (headerGet request.blanked.realIp) = "" := by
    change ServerConfig.trimSpace "" = ""
    decide +kernel
  rw [clientIp_trusted (same ▸ proxy), first, entries_empty, missing, net.parseIp_empty]
  simp [outside_empty, same]

/-- With one line of `X-Forwarded-For` at most, what a client writes changes nothing; with
several, another first line is enough for another answer. -/
theorem unspoofed_iff (request : Request) :
    Unspoofed net trustedProxies request ↔
      isTrustedProxy net trustedProxies (remoteHost net request.remoteAddr) = false ∨
      request.forwardedFor.length ≤ 1 ∨
      ∀ entry, lastEntry request.forwardedFor = some entry →
        outside net trustedProxies entry = false := by
  have direct : isTrustedProxy net trustedProxies (remoteHost net request.remoteAddr) = false →
      ∀ other : Request, other.remoteAddr = request.remoteAddr →
        clientIp net trustedProxies other = remoteHost net request.remoteAddr := by
    intro stranger other same
    simp [clientIp, same, stranger]
  constructor
  · intro unspoofed
    by_cases proxy : isTrustedProxy net trustedProxies (remoteHost net request.remoteAddr) = true
    · refine Or.inr ?_
      by_cases several : 1 < request.forwardedFor.length
      · refine Or.inr fun entry last => ?_
        apply Bool.eq_false_iff.mpr
        intro named
        -- The proxy itself is trusted, and the entry is not.
        have counted := unspoofed.appended proxy entry last named _ (blanked_sameHop several)
        rw [clientIp_blanked proxy] at counted
        rw [← counted, outside, proxy] at named
        simp at named
      · exact Or.inl (Nat.le_of_not_lt several)
    · exact Or.inl (Bool.eq_false_iff.mpr proxy)
  · intro holds
    refine ⟨direct, fun proxy entry last named other hop => ?_⟩
    rcases holds with stranger | single | silent
    · rw [stranger] at proxy
      cases proxy
    · exact clientIp_single (hop.remoteAddr ▸ proxy) (hop.lines ▸ single) (hop.last.trans last)
        named
    · rw [silent entry last] at named
      cases named

/-- Three addresses, and a host in front of a port. -/
def sampleNet : Net String Empty where
  splitHostPort address := if address = "127.0.0.1:1234" then some "127.0.0.1" else none
  parseIp text := ["127.0.0.1", "198.51.100.99", "203.0.113.7"].contains text
  parseAddr text := if ["127.0.0.1", "198.51.100.99", "203.0.113.7"].contains text then some text
    else none
  parsePrefix _ := none
  contains := nofun
  parseIp_empty := by decide

/-- The client sends a line of its own, and the proxy appends the second one. -/
def twoLines : Request where
  remoteAddr := "127.0.0.1:1234"
  forwardedFor := ["198.51.100.99", "203.0.113.7"]
  realIp := []

theorem first_line_spoofed :
    isTrustedProxy sampleNet ["127.0.0.1"] (remoteHost sampleNet twoLines.remoteAddr) = true ∧
      lastEntry twoLines.forwardedFor = some "203.0.113.7" ∧
      outside sampleNet ["127.0.0.1"] "203.0.113.7" = true ∧
      clientIp sampleNet ["127.0.0.1"] twoLines = "198.51.100.99" := by
  decide +kernel

end Spoofing

end OnlyTwo.Relay
