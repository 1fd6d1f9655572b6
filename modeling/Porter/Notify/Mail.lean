import Porter.Go.Strings

/-!
# Alert mail

`internal/notify/notify.go`: the message that is built for an alert, and what a reader of RFC 5322
messages finds in it. Nothing keeps line breaks out of the header fields.
-/
namespace Porter.Notify

open Go

abbrev Text := List UInt8

abbrev Line := { text : Text // 0x0A ∉ text }

def crlf : Text := [0x0D, 0x0A]

structure SMTPConfig where
  host : Text
  sender : Text
  defaultTo : Text
  enabled : Bool

variable (cfg : SMTPConfig) (recipients : List Text) (subject body : Text) (date : Line)

def field (name : String) (value : Text) : Text := ascii name ++ ascii ": " ++ value ++ crlf

def buildMessage (sender : Text) : Text :=
  field "From" sender ++ (field "To" ((ascii ", ").intercalate recipients) ++
    (field "Subject" subject ++ (field "MIME-Version" (ascii "1.0") ++
    (field "Content-Type" (ascii "text/plain; charset=UTF-8") ++ (field "Date" date ++
    (crlf ++ (body ++ crlf)))))))

def send : Except String (Option (List Text × Text)) :=
  if cfg.enabled ∧ cfg.host ≠ [] then
    let recipients := if recipients = [] then [cfg.defaultTo] else recipients
    if recipients.head? = none ∨ recipients.head? = some [] then
      .error "notify: no recipient configured"
    else .ok (some (recipients, buildMessage recipients subject body date cfg.sender))
  else .ok none

variable (recipient project alertID status detail sent : Text)

def alertSubject : Text :=
  ascii "[porter] alert " ++ status ++ ascii " on " ++ project ++ ascii ": " ++ alertID

def alertBody : Text :=
  ascii "Project: " ++ project ++ ascii "\nAlert: " ++ alertID ++ ascii "\nStatus: " ++ status ++
    ascii "\nDetail: " ++ detail ++ ascii "\nSent: " ++ sent ++ ascii "\n"

def sendAlert : Except String (Option (List Text × Text)) :=
  send cfg [recipient] (alertSubject project alertID status)
    (alertBody project alertID status detail sent) date

def folded (rest : Text) : Bool := rest.head? = some 0x20 || rest.head? = some 0x09

def unfoldLine : Text → Option (Text × Text)
  | [] => none
  | 0x0D :: 0x0A :: rest => if folded rest then unfoldLine rest else some ([], rest)
  | 0x0A :: rest => if folded rest then unfoldLine rest else some ([], rest)
  | b :: rest => (unfoldLine rest).map fun line => (b :: line.1, line.2)

def parseFields : Nat → Text → Option (List (Text × Text) × Text)
  | _, 0x0D :: 0x0A :: body => some ([], body)
  | _, 0x0A :: body => some ([], body)
  | 0, _ => none
  | n + 1, text => do
    let (line, rest) ← unfoldLine text
    let (name, value) ← cut line 0x3A
    let (fields, body) ← parseFields n rest
    return ((name, trimPrefix value [0x20]) :: fields, body)

def parseMessage (text : Text) : Option (List (Text × Text) × Text) := parseFields text.length text

theorem unfoldLine_append {line rest : Text} (unbroken : 0x0A ∉ line)
    (ends : folded rest = false) : unfoldLine (line ++ crlf ++ rest) = some (line, rest) := by
  induction line with
  | nil => simp [crlf, unfoldLine, ends]
  | cons b line recurse =>
    have tail := recurse (List.not_mem_of_not_mem_cons unbroken)
    have first : b ≠ 0x0A := fun same => unbroken (same ▸ List.mem_cons_self)
    -- The byte behind `b` is one of the line or the carriage return behind it.
    have second : (line ++ crlf ++ rest).head? ≠ some 0x0A := by
      cases line with
      | nil => simp [crlf]
      | cons c line =>
        intro same
        exact unbroken (by simp [Option.some.inj same])
    rw [List.cons_append, List.cons_append, unfoldLine.eq_4, tail, Option.map_some]
    · rintro more rfl same
      exact second (by rw [same]; rfl)
    · exact first

theorem parseFields_field {name : String} {value rest : Text} (n : Nat)
    (named : (ascii name).head?.any fun b => b ≠ 0x0D && b ≠ 0x0A)
    (plain : 0x0A ∉ ascii name ∧ 0x3A ∉ ascii name) (unbroken : 0x0A ∉ value)
    (ends : folded rest = false) :
    parseFields (n + 1) (field name value ++ rest) =
      (parseFields n rest).map fun m => ((ascii name, value) :: m.1, m.2) := by
  have line : unfoldLine (field name value ++ rest) =
      some (ascii name ++ 0x3A :: 0x20 :: value, rest) := by
    have whole : field name value = ascii name ++ 0x3A :: 0x20 :: value ++ crlf := by
      simp [field, ascii, bytes]
    rw [whole]
    exact unfoldLine_append (by simp [plain.1, unbroken]) ends
  cases text : field name value ++ rest with
  | nil => simp [field, crlf] at text
  | cons b more =>
    have first : b ≠ 0x0D ∧ b ≠ 0x0A := by
      cases letters : ascii name with
      | nil => simp [letters] at named
      | cons c letters =>
        simp [field, letters] at text named
        exact text.1 ▸ named
    rw [text] at line
    rw [parseFields.eq_4, line]
    · simp [cut_append plain.2, trimPrefix, Option.map_eq_bind, Function.comp_def]
    · simp [first.1]
    · simp [first.2]

variable {cfg recipients subject body date recipient project alertID status detail sent}

theorem parseMessage_buildMessage {sender : Text} (from_unbroken : 0x0A ∉ sender)
    (to_unbroken : 0x0A ∉ (ascii ", ").intercalate recipients) (unbroken : 0x0A ∉ subject) :
    parseMessage (buildMessage recipients subject body date sender) =
      some ([(ascii "From", sender), (ascii "To", (ascii ", ").intercalate recipients),
        (ascii "Subject", subject), (ascii "MIME-Version", ascii "1.0"),
        (ascii "Content-Type", ascii "text/plain; charset=UTF-8"), (ascii "Date", date.val)],
        body ++ crlf) := by
  have long : 6 ≤ (buildMessage recipients subject body date sender).length := by
    simp [buildMessage, field, crlf]
    omega
  obtain ⟨n, length⟩ := Nat.exists_eq_add_of_le' long
  rw [parseMessage, length, buildMessage, parseFields_field _ rfl (by decide) from_unbroken rfl,
    parseFields_field _ rfl (by decide) to_unbroken rfl,
    parseFields_field _ rfl (by decide) unbroken rfl,
    parseFields_field _ rfl (by decide) (by decide) rfl,
    parseFields_field _ rfl (by decide) (by decide) rfl,
    parseFields_field _ rfl (by decide) date.property rfl]
  simp [crlf, parseFields]

theorem message_of_send {handed : List Text × Text}
    (given : send cfg [recipient] subject body date = .ok (some handed)) :
    handed.2 = buildMessage [recipient] subject body date cfg.sender := by
  unfold send at given
  split at given
  · simp only [List.cons_ne_nil, if_false] at given
    split at given
    · cases given
    · rw [← Option.some.inj (Except.ok.inj given)]
  · cases given

def mailConfig : SMTPConfig := ⟨ascii "mx", ascii "a", ascii "b", true⟩

def noon : Line := ⟨ascii "Mon, 02 Jan 2006 12:00:00 +0000", by decide⟩

def cpuAlert (project : Text) : Except String (Option (List Text × Text)) :=
  sendAlert mailConfig noon (ascii "b") project (ascii "cpu") (ascii "firing") [] []

end Porter.Notify
