import PowerRota.Calendar.Timetable.AfricaAsia
import PowerRota.Calendar.Timetable.America
import PowerRota.Calendar.Timetable.Europe
import PowerRota.Calendar.Timetable.Oceania
import PowerRota.Text.Blank
import PowerRota.Text.Decimal

/-! The time zone that all rules are read in, chosen by its registered name.

A name that is empty or not registered stands for the clock of the machine, which
shows universal time; a misspelt name never keeps a schedule from loading. -/

set_option autoImplicit false

namespace PowerRota.Calendar

def changingZones : List Zone := [
  Timetable.zone "Africa/Cairo" Timetable.cairo,
  Timetable.zone "America/Los_Angeles" Timetable.losAngeles,
  Timetable.zone "America/New_York" Timetable.newYork,
  Timetable.zone "America/Panama" Timetable.panama,
  Timetable.zone "America/Sao_Paulo" Timetable.saoPaulo,
  Timetable.zone "America/St_Johns" Timetable.stJohns,
  Timetable.zone "Asia/Calcutta" Timetable.kolkata,
  Timetable.zone "Asia/Katmandu" Timetable.kathmandu,
  Timetable.zone "Asia/Kathmandu" Timetable.kathmandu,
  Timetable.zone "Asia/Kolkata" Timetable.kolkata,
  Timetable.zone "Asia/Tokyo" Timetable.tokyo,
  Timetable.zone "Australia/LHI" Timetable.lordHowe,
  Timetable.zone "Australia/Lord_Howe" Timetable.lordHowe,
  Timetable.zone "Australia/Sydney" Timetable.sydney,
  Timetable.zone "Canada/Newfoundland" Timetable.stJohns,
  Timetable.zone "EST" Timetable.panama,
  Timetable.zone "Egypt" Timetable.cairo,
  Timetable.zone "Europe/Berlin" Timetable.berlin,
  Timetable.zone "Europe/London" Timetable.london,
  Timetable.zone "Europe/Moscow" Timetable.moscow,
  Timetable.zone "GB" Timetable.london,
  Timetable.zone "Japan" Timetable.tokyo,
  Timetable.zone "NZ-CHAT" Timetable.chatham,
  Timetable.zone "Pacific/Apia" Timetable.apia,
  Timetable.zone "Pacific/Chatham" Timetable.chatham,
  Timetable.zone "US/Eastern" Timetable.newYork,
  Timetable.zone "US/Pacific" Timetable.losAngeles,
  Timetable.zone "W-SU" Timetable.moscow]

def universalNames : List String := [
  "UTC", "GMT", "GMT+0", "GMT-0", "GMT0", "Greenwich", "UCT", "Universal", "Zulu",
  "Etc/UTC", "Etc/GMT", "Etc/GMT+0", "Etc/GMT-0", "Etc/GMT0", "Etc/Greenwich", "Etc/UCT",
  "Etc/Universal", "Etc/Zulu"]

/-- A clock that never changes. In the names that count hours the sign says how
far universal time is ahead, not how far the clock is. -/
def fixedZone? (name : String) : Option Zone :=
  if universalNames.contains name then some (.fixed name 0 (by decide))
  else
    let hours (sign : Int) (digits : List Char) (limit : Nat) : Option Zone :=
      match Text.readNat digits with
      | some n =>
          if isOffset : IsOffset (sign * (n * 3600)) then
            if 1 ≤ n && n ≤ limit && Text.decimal n == digits then
              some (.fixed name (sign * (n * 3600)) isOffset)
            else none
          else none
      | none => none
    match name.toList with
    | 'E' :: 't' :: 'c' :: '/' :: 'G' :: 'M' :: 'T' :: '+' :: digits => hours (-1) digits 12
    | 'E' :: 't' :: 'c' :: '/' :: 'G' :: 'M' :: 'T' :: '-' :: digits => hours 1 digits 14
    | _ => none

def machineZone : Zone :=
  .fixed "Local" 0 (by decide)

inductive Location where
  | machine
  | named (zone : Zone)

namespace Location

def zone : Location → Zone
  | .machine => machineZone
  | .named zone => zone

def name (location : Location) : String :=
  location.zone.name

def resolve (text : String) : Location :=
  let name := String.ofList (Text.trim text.toList)
  match changingZones.find? (·.name == name) with
  | some zone => .named zone
  | none =>
      match fixedZone? name with
      | some zone => .named zone
      | none => .machine

end Location

end PowerRota.Calendar
