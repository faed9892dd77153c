import Roster.Sql.Memberships
import Roster.Store

namespace Roster.Store.Server

open Sql (Query)

def query : (c : Call) → Query c.Result
  | .getUser id => Sql.Users.get id
  | .findUser r => Sql.Users.find r
  | .userNamed n => Sql.Users.named n
  | .listUsers l => Sql.Users.list l
  | .createUser u => Sql.Users.create u
  | .updateUser u => Sql.Users.update u
  | .deleteUser id => Sql.Users.delete id
  | .isUserTaken key v except => Sql.Users.isTaken key v except
  | .countUsers => Sql.Users.count
  | .getCircle k id => Sql.Circles.get k id
  | .findCircle k r => Sql.Circles.find k r
  | .listCircles k l => Sql.Circles.list k l
  | .createCircle k c owner => Sql.Circles.create k c owner
  | .updateCircle k c => Sql.Circles.update k c
  | .deleteCircle k id => Sql.Circles.delete k id
  | .isCircleTaken k key v except => Sql.Circles.isTaken k key v except
  | .countCircles k => Sql.Circles.count k
  | .insertMembership k m => Sql.Memberships.insert k m
  | .updatePermission k u c p _ => Sql.Memberships.updatePermission k u c p
  | .deleteMembership k u c => Sql.Memberships.delete k u c
  | .findMembership k u c => Sql.Memberships.find k u c
  | .listByCircle k c l => Sql.Memberships.list k (Sql.Memberships.ofCircle k l) c.text l
  | .listByUser k u l => Sql.Memberships.list k (Sql.Memberships.ofUser l) u.text l

def answer (c : Call) : Dialogue Sql.interface (Except Fault c.Result) :=
  (query c).run

/-- A computation over the store as a conversation with the server. -/
def converse {α : Type} (d : Dialogue Store.interface α) : Dialogue Sql.interface α :=
  d.relay answer

end Roster.Store.Server
