import GroupFederation.Text.Utf8

/-!
# Base 64

Three bytes are written as four characters of an alphabet of sixty-four; the last group is filled
up with equals signs. An account is shown to a backend in this form.
-/

namespace GroupFederation.Text.Base64

/-- The character for six bits. -/
def symbol (value : Nat) : Char :=
  if value < 26 then Char.ofNat (0x41 + value)
  else if value < 52 then Char.ofNat (0x61 + (value - 26))
  else if value < 62 then Char.ofNat (0x30 + (value - 52))
  else if value = 62 then '+'
  else '/'

/-- The written form of bytes. -/
def encode : Bytes → List Char
  | [] => []
  | [first] =>
      let bits := first.toNat * 0x10
      [symbol (bits / 0x40), symbol (bits % 0x40), '=', '=']
  | [first, second] =>
      let bits := (first.toNat * 0x100 + second.toNat) * 4
      [symbol (bits / 0x1000), symbol (bits / 0x40 % 0x40), symbol (bits % 0x40), '=']
  | first :: second :: third :: rest =>
      let bits := (first.toNat * 0x100 + second.toNat) * 0x100 + third.toNat
      symbol (bits / 0x40000) :: symbol (bits / 0x1000 % 0x40) :: symbol (bits / 0x40 % 0x40) ::
        symbol (bits % 0x40) :: encode rest

/-- The value of an `authorization` header for a name and a password. -/
def basicAuthorization (username password : String) : String :=
  "Basic " ++ String.ofList (encode (Utf8.ofText (username ++ ":" ++ password)))

end GroupFederation.Text.Base64
