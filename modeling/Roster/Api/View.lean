import Roster.Digest.Sha256
import Roster.Listing
import Roster.Json.Decoder
import Roster.Timestamp.Rfc3339
import Roster.Token

namespace Roster

def Timestamp.toJson (t : Timestamp) : Json :=
  .text t.text

def Timestamp.decoder : Json.Decoder Timestamp :=
  Json.Decoder.string.refine Timestamp.ofText?

namespace Api

def pictureUrl (email : String) : String :=
  let digest := Sha256.digest (Bytes.ofText (Text.lowercase (Text.trim email)))
  "https://www.gravatar.com/avatar/" ++ Hex.encode digest ++ "?d=identicon&s=64&r=g"

end Api

namespace User

def toJson (u : User) : Json :=
  .object [("id", .text u.id.text), ("slug", .text u.slug), ("username", .text u.username),
    ("email", .text u.email), ("fullname", .text u.fullname), ("active", .bool u.active),
    ("admin", .bool u.admin), ("created_at", u.createdAt.toJson), ("updated_at", u.updatedAt.toJson)]

def view (u : User) : Json :=
  .object [("id", .text u.id.text), ("slug", .text u.slug), ("username", .text u.username),
    ("email", .text u.email), ("fullname", .text u.fullname),
    ("profile", .text (Api.pictureUrl u.email)), ("active", .bool u.active), ("admin", .bool u.admin),
    ("created_at", u.createdAt.toJson), ("updated_at", u.updatedAt.toJson)]

def idDecoder : Json.Decoder UserId :=
  Json.Decoder.string.refine UserId.ofText?

/-- Reads a user; a hash may be given though none is ever written. -/
def shape : Json.Shape User :=
  User.mk <$> .required "id" idDecoder <*> .required "slug" .string <*>
    .required "username" .string <*> .required "email" .string <*> .required "fullname" .string <*>
    .defaulted "password_hash" .string "" <*> .required "active" .boolean <*>
    .required "admin" .boolean <*> .required "created_at" Timestamp.decoder <*>
    .required "updated_at" Timestamp.decoder

end User

def Circle.toJson (c : Circle) : Json :=
  .object [("id", .text c.id.text), ("slug", .text c.slug), ("name", .text c.name),
    ("created_at", c.createdAt.toJson), ("updated_at", c.updatedAt.toJson)]

def Membership.toJson (m : Membership) : Json :=
  .object [("user_id", .text m.userId.text), ("container_id", .text m.circleId.text),
    ("perm", .text m.permission.name), ("created_at", m.createdAt.toJson),
    ("updated_at", m.updatedAt.toJson)]

def Member.view (k : Kind) (m : Member) : Json :=
  .object [("user_id", .text m.user.id.text), (k.name ++ "_id", .text m.circle.id.text),
    ("user", m.user.view), (k.name, m.circle.toJson),
    ("perm", .text m.membership.permission.name),
    ("created_at", m.membership.createdAt.toJson), ("updated_at", m.membership.updatedAt.toJson)]

def Page.view {α : Type} (name : String) (f : α → Json) (l : Listing) (p : Page α) : Json :=
  .object [("total", .nat p.total), ("limit", .nat l.limit), ("offset", .nat l.offset),
    (name, .array (p.records.map f))]

def IssuedToken.toJson (t : IssuedToken) : Json :=
  .record [("token", some (.text t.token)), ("expires_at", t.expiresAt.map Timestamp.toJson)]

end Roster
