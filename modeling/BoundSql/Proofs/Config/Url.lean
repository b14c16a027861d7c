import BoundSql.Proofs.Config.Component
import BoundSql.Text.Form
import BoundSql.Text.Numeral

/-!
# The URL of a server, taken apart

A URL is cut where its separators first stand, and only then are the pieces decoded. No component
holds a separator, so each cut finds the place where the URL was put together, whichever of its
optional parts are there.

* `Text.cutOff_append`: an optional part behind a mark;
* `readParameters?_parametersText?`: the parameters of a query, read back;
* `Entry.IsServer.cut?_dsn`: the pieces of the URL of an entry;
* `Entry.read?_url`: what the pieces say;
* `server_dsn_taken_apart`: the parts of an entry, read from its URL.
-/

namespace BoundSql

/-! ## Cuts -/

namespace Text

variable {mark : Char} {before : List Char}

theorem cutAt?_append (h : mark ∉ before) (after : List Char) :
    cutAt? mark (before ++ mark :: after) = some (before, after) := by
  induction before with
  | nil => rw [List.nil_append, cutAt?, if_pos rfl]
  | cons c before ih =>
    rw [List.mem_cons, not_or] at h
    rw [List.cons_append, cutAt?, if_neg (Ne.symm h.1), ih h.2]
    rfl

theorem cutAt?_eq_none {s : List Char} (h : mark ∉ s) : cutAt? mark s = none := by
  induction s with
  | nil => rfl
  | cons c s ih =>
    rw [List.mem_cons, not_or] at h
    rw [cutAt?, if_neg (Ne.symm h.1), ih h.2]
    rfl

/-- The parts of a text before and after the first place where a longer mark stands. -/
def cutAtText? (mark : List Char) : List Char → Option (List Char × List Char)
  | [] => none
  | c :: rest =>
    if mark <+: c :: rest then some ([], (c :: rest).drop mark.length)
    else (cutAtText? mark rest).map fun (before, after) => (c :: before, after)

theorem cutAtText?_append (h : mark ∉ before) (others after : List Char) :
    cutAtText? (mark :: others) (before ++ (mark :: others ++ after)) = some (before, after) := by
  induction before with
  | nil =>
    rw [List.nil_append, List.cons_append, cutAtText?,
      if_pos (List.cons_prefix_cons.2 ⟨rfl, List.prefix_append _ _⟩), ← List.cons_append,
      List.drop_left]
  | cons c before ih =>
    rw [List.mem_cons, not_or] at h
    rw [List.cons_append, cutAtText?, if_neg fun hp => h.1 (List.cons_prefix_cons.1 hp).1, ih h.2]
    rfl

/-- An optional text with a mark before it. -/
def marked (mark : Char) : Option (List Char) → List Char
  | none => []
  | some text => mark :: text

/-- A text up to the first mark, and what is behind the mark if there is one. -/
def cutOff (mark : Char) (s : List Char) : List Char × Option (List Char) :=
  match cutAt? mark s with
  | some (before, after) => (before, some after)
  | none => (s, none)

theorem cutOff_append (h : mark ∉ before) (after : Option (List Char)) :
    cutOff mark (before ++ marked mark after) = (before, after) := by
  cases after with
  | none => rw [marked, List.append_nil, cutOff, cutAt?_eq_none h]
  | some after => rw [marked, cutOff, cutAt?_append h]

theorem readNat?_toString (n : Nat) : readNat? (toString n).toList = some n := by
  have hdigits : (toString n).toList.all Char.isDigit = true :=
    List.all_eq_true.2 fun _ => isDigit_of_mem_toString
  have hne : (toString n).toList.isEmpty = false := by
    rw [Nat.toString_eq_repr, Nat.toList_repr]
    exact List.isEmpty_eq_false_iff.2 Nat.toDigits_ne_nil
  rw [readNat?, hdigits, hne, Nat.toString_eq_repr, Nat.toList_repr]
  exact congrArg some (@Nat.ofDigitChars_toDigits 10 n (by decide) (by decide))

theorem not_mem_toString (h : mark.isDigit = false) (n : Nat) : mark ∉ (toString n).toList := by
  intro hm
  rw [isDigit_of_mem_toString hm] at h
  cases h

end Text

open Text

/-! ## The query -/

/-- The text of one parameter. -/
def parameterText (parameter : String × String) : List Char :=
  percentEncode parameter.1.toList ++ '=' :: percentEncode parameter.2.toList

/-- The text of a query, if there are parameters. -/
def parametersText? (parameters : List (String × String)) : Option (List Char) :=
  if parameters.isEmpty then none else some (['&'].intercalate (parameters.map parameterText))

/-- The name and the value of one parameter. -/
def readParameter? (s : List Char) : Option (String × String) := do
  let (name, value) ← cutAt? '=' s
  return (← readComponent? name, ← readComponent? value)

/-- The parameters of a query: the pairs stand between `&`, and a name ends at the first `=`. -/
def readParameters? : Option (List Char) → Option (List (String × String))
  | none => some []
  | some text => (pieces (· == '&') text).mapM readParameter?

theorem toList_query (parameters : List (String × String)) :
    (Entry.query parameters).toList = marked '?' (parametersText? parameters) := by
  rw [Entry.query, parametersText?]
  split
  · rfl
  · rw [String.toList_append, String.toList_intercalate, List.map_map]
    have hpair : String.toList ∘ (fun parameter : String × String =>
        Entry.component parameter.1 ++ "=" ++ Entry.component parameter.2) = parameterText := by
      funext parameter
      simp [parameterText, Entry.component]
    exact congrArg (fun texts => '?' :: ['&'].intercalate texts) (congrArg (List.map · _) hpair)

theorem readParameter?_parameterText (parameter : String × String) :
    readParameter? (parameterText parameter) = some parameter := by
  have hname : '=' ∉ percentEncode parameter.1.toList := not_mem_percentEncode rfl (by decide) _
  rw [readParameter?, parameterText, cutAt?_append hname]
  simp [readComponent?_percentEncode]

/-- No reserved mark stands in the text of a parameter, but for the `=`. -/
theorem not_mem_parameterText {mark : Char} (hu : isUnreserved mark = false)
    (hm : mark ≠ '%' ∧ mark ≠ '=') (parameter : String × String) :
    mark ∉ parameterText parameter := by
  rw [parameterText, List.mem_append, List.mem_cons, not_or, not_or]
  exact ⟨not_mem_percentEncode hu hm.1 _, hm.2, not_mem_percentEncode hu hm.1 _⟩

theorem mapM_readParameter? (parameters : List (String × String)) :
    (parameters.map parameterText).mapM readParameter? = some parameters := by
  induction parameters with
  | nil => rfl
  | cons parameter rest ih =>
    rw [List.map_cons, List.mapM_cons, readParameter?_parameterText, ih]
    rfl

/-- A query is read back as its parameters, in order. -/
theorem readParameters?_parametersText? (parameters : List (String × String)) :
    readParameters? (parametersText? parameters) = some parameters := by
  cases parameters with
  | nil => rfl
  | cons parameter rest =>
    have hpieces : pieces (· == '&') (['&'].intercalate ((parameter :: rest).map parameterText)) =
        (parameter :: rest).map parameterText := by
      refine pieces_intercalate ?_ ?_ fun text htext c hc => ?_
      · exact beq_self_eq_true '&'
      · exact List.cons_ne_nil _ _
      · obtain ⟨p, -, rfl⟩ := List.mem_map.1 htext
        exact beq_false_of_ne fun heq => not_mem_parameterText rfl (by decide) p (heq ▸ hc)
    exact (congrArg (List.mapM readParameter?) hpieces).trans (mapM_readParameter? _)

/-! ## The pieces of a URL -/

/-- The pieces of a URL between its separators, as they stand there. A name, a password and an
address that are left out are empty. -/
structure ServerUrl where
  scheme : List Char
  user : List Char
  password : List Char
  host : List Char
  port : Option (List Char)
  name : List Char
  query : Option (List Char)
  deriving DecidableEq

/-- What a URL says of a server. -/
structure ServerParts where
  backend : Backend
  user : String
  password : String
  host : String
  port : Option UInt16
  name : String
  parameters : List (String × String)
  deriving DecidableEq

/-- The user and the password before the `@` of an authority, and the address behind it. -/
def cutCredentials (authority : List Char) : List Char × List Char × List Char :=
  match cutAt? '@' authority with
  | some (credentials, address) =>
    let (user, password) := cutOff ':' credentials
    (user, password.getD [], address)
  | none => ([], [], authority)

namespace ServerUrl

/-- The pieces of a URL: the scheme ends at `://`, the authority at the next `/`, and the name at
the first `?` behind it. In the authority the credentials end at `@`; a password and a port stand
behind `:`. -/
def cut? (text : List Char) : Option ServerUrl := do
  let (scheme, rest) ← cutAtText? [':', '/', '/'] text
  let (authority, path) ← cutAt? '/' rest
  let (user, password, address) := cutCredentials authority
  let (host, port) := cutOff ':' address
  let (name, query) := cutOff '?' path
  return { scheme, user, password, host, port, name, query }

end ServerUrl

/-- A port, if one is given, as a number of sixteen bits. -/
def readPort? : Option (List Char) → Option (Option UInt16)
  | none => some none
  | some digits => do
    let n ← readNat? digits
    if n < 2 ^ 16 then some (some (UInt16.ofNat n)) else none

/-- What the pieces of a URL say, decoded. The host stands for itself. -/
def ServerUrl.read? (url : ServerUrl) : Option ServerParts := do
  return {
    backend := ← Backend.ofEngine? (String.ofList url.scheme)
    user := ← readComponent? url.user
    password := ← readComponent? url.password
    host := String.ofList url.host
    port := ← readPort? url.port
    name := ← readComponent? url.name
    parameters := ← readParameters? url.query }

/-! ## The URL of an entry -/

namespace Entry

/-- An entry of a server with a host that can stand in a URL, and no password without a user. -/
structure IsServer (entry : Entry) (backend : Backend) : Prop where
  engine : entry.backend = .ok backend
  server : backend ≠ .sqlite
  host : '@' ∉ entry.host.toList ∧ '/' ∉ entry.host.toList ∧ '?' ∉ entry.host.toList ∧
    ':' ∉ entry.host.toList
  credentials : entry.user ≠ "" ∨ entry.password = ""

/-- What the URL of an entry is to say. -/
def parts (entry : Entry) (backend : Backend) : ServerParts where
  backend := backend
  user := entry.user
  password := entry.password
  host := entry.host
  port := entry.port
  name := entry.name
  parameters := entry.parameters backend

/-- The pieces of the URL of an entry. -/
def url (entry : Entry) (backend : Backend) : ServerUrl where
  scheme := backend.name.toList
  user := percentEncode entry.user.toList
  password := percentEncode entry.password.toList
  host := entry.host.toList
  port := entry.port.map fun port => (toString port.toNat).toList
  name := percentEncode entry.name.toList
  query := parametersText? (entry.parameters backend)

/-- The text of a password, unless it is empty. -/
def passwordText? (password : String) : Option (List Char) :=
  if password.isEmpty then none else some (percentEncode password.toList)

theorem getD_passwordText? (password : String) :
    (passwordText? password).getD [] = percentEncode password.toList := by
  rw [passwordText?]
  split
  · rename_i hempty
    rw [String.isEmpty_iff.1 hempty]
    rfl
  · rfl

/-- The text of the user and the password. -/
def login (entry : Entry) : List Char :=
  percentEncode entry.user.toList ++ marked ':' (passwordText? entry.password)

theorem not_mem_login {mark : Char} (hu : isUnreserved mark = false)
    (hm : mark ≠ '%' ∧ mark ≠ ':') (entry : Entry) : mark ∉ entry.login := by
  have hcomponent := not_mem_percentEncode hu hm.1
  rw [login, passwordText?]
  split <;> simp [marked, hcomponent, hm.2]

theorem toList_credentials {entry : Entry} (h : entry.user ≠ "") :
    entry.credentials.toList = entry.login ++ ['@'] := by
  rw [credentials, if_neg fun hempty => h (String.isEmpty_iff.1 hempty), login, passwordText?]
  split <;> simp [component, marked]

theorem credentials_of_no_user {entry : Entry} (h : entry.user = "") : entry.credentials = "" := by
  rw [credentials, h]
  rfl

theorem slash_not_mem_credentials (entry : Entry) : '/' ∉ entry.credentials.toList := by
  by_cases h : entry.user = ""
  · rw [credentials_of_no_user h]
    exact List.not_mem_nil
  · rw [toList_credentials h, List.mem_append, not_or]
    exact ⟨not_mem_login rfl (by decide) entry, by decide⟩

theorem dsn_of_location {entry : Entry} {backend : Backend} {text : String}
    (hb : entry.backend = .ok backend) (hl : entry.location backend = .ok text) :
    entry.dsn = .ok (text ++ query (entry.parameters backend)) := by
  rw [dsn, hb]
  change (entry.location backend >>= _) = _
  rw [hl]
  rfl

theorem toList_address (entry : Entry) :
    entry.address.toList = entry.host.toList ++
      marked ':' (entry.port.map fun port => (toString port.toNat).toList) := by
  rw [address]
  cases entry.port with
  | none => exact (List.append_nil _).symm
  | some port => simp [marked]

end Entry

theorem readPort?_toString (port : Option UInt16) :
    readPort? (port.map fun port => (toString port.toNat).toList) = some port := by
  cases port with
  | none => rfl
  | some port =>
    rw [Option.map_some, readPort?, readNat?_toString, Option.bind_eq_bind, Option.bind_some,
      if_pos port.toNat_lt, UInt16.ofNat_toNat]

theorem Backend.ofEngine?_name (backend : Backend) : ofEngine? backend.name = some backend := by
  cases backend <;> rfl

/-- The pieces of the URL of an entry say what the entry says. -/
theorem Entry.read?_url (entry : Entry) (backend : Backend) :
    (entry.url backend).read? = some (entry.parts backend) := by
  simp only [ServerUrl.read?, Entry.url, readComponent?_percentEncode, readPort?_toString,
    readParameters?_parametersText?, String.ofList_toList, Backend.ofEngine?_name]
  rfl

namespace Entry.IsServer

variable {entry : Entry} {backend : Backend}

theorem not_mem_address {mark : Char} (hhost : mark ∉ entry.host.toList)
    (hd : mark.isDigit = false) (hc : mark ≠ ':') : mark ∉ entry.address.toList := by
  rw [toList_address, List.mem_append, not_or]
  refine ⟨hhost, ?_⟩
  cases entry.port with
  | none => exact List.not_mem_nil
  | some port =>
    rw [Option.map_some, marked, List.mem_cons, not_or]
    exact ⟨hc, not_mem_toString hd _⟩

theorem cutCredentials_authority (h : entry.IsServer backend) :
    cutCredentials (entry.credentials.toList ++ entry.address.toList) =
      (percentEncode entry.user.toList, percentEncode entry.password.toList,
        entry.address.toList) := by
  by_cases hu : entry.user = ""
  · have hp := h.credentials.resolve_left (not_not_intro hu)
    rw [credentials_of_no_user hu, hu, hp]
    change cutCredentials entry.address.toList = _
    rw [cutCredentials, cutAt?_eq_none (not_mem_address h.host.1 rfl (by decide))]
    rfl
  · rw [toList_credentials hu, List.append_assoc, List.singleton_append, cutCredentials,
      cutAt?_append (not_mem_login rfl (by decide) entry)]
    dsimp only
    rw [login, cutOff_append (not_mem_percentEncode rfl (by decide) _), getD_passwordText?]

theorem toList_dsn (h : entry.IsServer backend) :
    ∃ dsn, entry.dsn = .ok dsn ∧
      dsn.toList = backend.name.toList ++ ([':', '/', '/'] ++
        ((entry.credentials.toList ++ entry.address.toList) ++ '/' ::
          (percentEncode entry.name.toList ++
            marked '?' (parametersText? (entry.parameters backend))))) := by
  have hlocation : entry.location backend =
      .ok (backend.name ++ "://" ++ entry.credentials ++ entry.address ++ "/" ++
        component entry.name) := by
    cases backend with
    | postgres | mysql => rfl
    | sqlite => exact absurd rfl h.server
  refine ⟨_, dsn_of_location h.engine hlocation, ?_⟩
  simp [toList_query, component]

theorem cut?_dsn (h : entry.IsServer backend) :
    ∃ dsn, entry.dsn = .ok dsn ∧ ServerUrl.cut? dsn.toList = some (entry.url backend) := by
  obtain ⟨dsn, hdsn, htext⟩ := h.toList_dsn
  refine ⟨dsn, hdsn, ?_⟩
  have hscheme : ':' ∉ backend.name.toList := by
    cases backend <;> decide
  have hauthority : '/' ∉ entry.credentials.toList ++ entry.address.toList := by
    rw [List.mem_append, not_or]
    exact ⟨slash_not_mem_credentials entry,
      not_mem_address h.host.2.1 rfl (by decide)⟩
  rw [htext, ServerUrl.cut?, cutAtText?_append hscheme, Option.bind_eq_bind, Option.bind_some]
  dsimp only
  rw [cutAt?_append hauthority, Option.bind_some]
  dsimp only
  rw [h.cutCredentials_authority]
  dsimp only
  rw [toList_address, cutOff_append h.host.2.2.2,
    cutOff_append (not_mem_percentEncode rfl (by decide) _)]
  rfl

end Entry.IsServer

/-- The URL of an entry of a server can be taken apart again. It is cut at `://`, at the first `/`
behind it, at `@` and `:` before that and at `?` behind it; the query is cut at `&` and `=`. The
pieces, decoded, are the user, the password, the port, the name and the parameters in order, and the
scheme names the backend. The host stands for itself, and decoding it as well changes nothing
exactly when it holds no escape. So two entries with one URL agree in all of these parts. -/
theorem server_dsn_taken_apart {entry : Entry} {backend : Backend} (h : entry.IsServer backend) :
    ∃ dsn url, entry.dsn = .ok dsn ∧ ServerUrl.cut? dsn.toList = some url ∧
      url.read? = some (entry.parts backend) ∧ url.host = entry.host.toList ∧
      (readComponent? url.host = some entry.host ↔ ¬ Escapes (utf8 entry.host.toList)) ∧
      ∀ other otherBackend, Entry.IsServer other otherBackend → other.dsn = .ok dsn →
        other.parts otherBackend = entry.parts backend := by
  obtain ⟨dsn, hdsn, hcut⟩ := h.cut?_dsn
  refine ⟨dsn, entry.url backend, hdsn, hcut, entry.read?_url backend, rfl, ?_, ?_⟩
  · have hhost := readComponent?_eq_self_iff entry.host.toList
    rwa [String.ofList_toList] at hhost
  · intro other otherBackend hother hsame
    obtain ⟨_, hdsn', hcut'⟩ := hother.cut?_dsn
    cases hsame.symm.trans hdsn'
    have hurl : other.url otherBackend = entry.url backend :=
      Option.some.inj (hcut'.symm.trans hcut)
    have hread := other.read?_url otherBackend
    rw [hurl, entry.read?_url] at hread
    exact (Option.some.inj hread).symm

/-- A password and an option with separators in them. -/
theorem server_dsn_taken_apart_separators :
    ∃ url,
      ({ engine := "MariaDB", host := "db", port := some 3307, name := "shop", user := "app"
         password := "p@ss:/é", options := .ofList [("a&b", "?c=")] } : Entry).dsn =
        .ok "mysql://app:p%40ss%3A%2F%C3%A9@db:3307/shop?charset=utf8&a%26b=%3Fc%3D" ∧
      ServerUrl.cut?
          "mysql://app:p%40ss%3A%2F%C3%A9@db:3307/shop?charset=utf8&a%26b=%3Fc%3D".toList =
        some url ∧
      url.read? = some {
        backend := .mysql, user := "app", password := "p@ss:/é", host := "db", port := some 3307
        name := "shop", parameters := [("charset", "utf8"), ("a&b", "?c=")] } := by
  have server : Entry.IsServer
      { engine := "MariaDB", host := "db", port := some 3307, name := "shop", user := "app"
        password := "p@ss:/é", options := .ofList [("a&b", "?c=")] } .mysql :=
    ⟨rfl, by decide, by decide, .inl (by decide)⟩
  obtain ⟨dsn, url, hdsn, hcut, hread, -⟩ := server_dsn_taken_apart server
  cases hdsn.symm.trans (rfl : _ = Except.ok
    "mysql://app:p%40ss%3A%2F%C3%A9@db:3307/shop?charset=utf8&a%26b=%3Fc%3D")
  exact ⟨url, hdsn, hcut, hread⟩

/-- A host that holds an escape is written as it is, so decoding its piece gives another host. -/
theorem server_dsn_decodes_host :
    ∃ url,
      Entry.IsServer { engine := "mysql", host := "%41", name := "shop" } .mysql ∧
      ({ engine := "mysql", host := "%41", name := "shop" } : Entry).dsn =
        .ok "mysql://%41/shop?charset=utf8" ∧
      ServerUrl.cut? "mysql://%41/shop?charset=utf8".toList = some url ∧
      readComponent? url.host = some "A" := by
  refine ⟨_, ⟨rfl, by decide, by decide, .inr rfl⟩, rfl, rfl, ?_⟩
  exact fromUTF8?_utf8 ['A']

end BoundSql
