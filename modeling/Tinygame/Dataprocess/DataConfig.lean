import Tinygame.Base.Obj

/-!
# The data config

`config/DataConfig.js` and its lookups in `data_check.js`: which entities each function reads and
writes, where an entity is kept, and the codes a failed read or write is reported with.
-/

namespace Tinygame

inductive DataName where
  | heroBookInfo | globalInfo | bagList | pvpDay | mapInfo | pvpInfo | nodeInfo | baseInfo | pvpWeek
  | pvpSng | heroInfo | heroInfoList | teamHeroList
  deriving DecidableEq

def DataName.valueName : DataName → String
  | .heroBookInfo => "heroBookInfo"
  | .globalInfo => "globalInfo"
  | .bagList => "bagList"
  | .pvpDay => "pvpDay"
  | .mapInfo => "mapInfo"
  | .pvpInfo => "pvpInfo"
  | .nodeInfo => "nodeInfo"
  | .baseInfo => "baseInfo"
  | .pvpWeek => "pvpWeek"
  | .pvpSng => "pvpSng"
  | .heroInfo => "heroInfo"
  | .heroInfoList => "heroInfoList"
  | .teamHeroList => "teamHeroList"

inductive Kind where
  | writeYourself | personal | hashPersonal | hashAllPersonal | area | global
  deriving DecidableEq

/-- One property of `DataConfig.setting`. `key` names the hash field, `default` its fixed value. -/
structure Setting where
  name : DataName
  kind : Kind
  dbKey : String
  key : Option String
  default : Option Nat
  deriving DecidableEq

/-- `DataConfig.setting` in the order of the file. -/
def setting : List Setting :=
  [⟨.heroBookInfo, .hashPersonal, "hero", some "heroId", some 0⟩,
    ⟨.globalInfo, .global, "all", none, none⟩,
    ⟨.bagList, .personal, "bag", none, none⟩,
    ⟨.pvpDay, .area, "pvpday", none, none⟩,
    ⟨.mapInfo, .personal, "map", none, none⟩,
    ⟨.pvpInfo, .personal, "pvp", none, none⟩,
    ⟨.nodeInfo, .hashPersonal, "node", some "nodeid", none⟩,
    ⟨.baseInfo, .personal, "player", none, none⟩,
    ⟨.pvpWeek, .global, "pvpweek", none, none⟩,
    ⟨.pvpSng, .writeYourself, "", none, none⟩,
    ⟨.heroInfo, .hashPersonal, "hero", some "heroId", none⟩,
    ⟨.heroInfoList, .hashAllPersonal, "hero", none, none⟩,
    ⟨.teamHeroList, .writeYourself, "", none, none⟩]

/-- What a function does with an entity; `sp` is where the hash field is found in the data. -/
structure Access where
  name : DataName
  read : Bool
  write : Bool
  sp : Option String
  deriving DecidableEq

/-- One function of the table; an entity that is not listed has zeros there. -/
structure FuncConfig where
  funcName : String
  access : List Access
  deriving DecidableEq

namespace FuncConfig

def entry (func : FuncConfig) (name : DataName) : Option Access := func.access.find? (·.name = name)

/-- `dataKey["r" + dataName](funcName)`. -/
def reads (func : FuncConfig) (name : DataName) : Bool := ((func.entry name).map (·.read)).getD false

/-- `dataKey["w" + dataName](funcName)`. -/
def writes (func : FuncConfig) (name : DataName) : Bool := ((func.entry name).map (·.write)).getD false

/-- The path behind `dataKey["sp" + funcName]`: the first one in the order of `setting`. -/
def sp (func : FuncConfig) : Option String :=
  setting.findSome? fun s => (func.entry s.name).bind (·.sp)

end FuncConfig

def reads (name : DataName) : Access := ⟨name, true, false, none⟩
def writes (name : DataName) : Access := ⟨name, false, true, none⟩
def both (name : DataName) : Access := ⟨name, true, true, none⟩
def via (name : DataName) (write : Bool) (sp : String) : Access := ⟨name, true, write, some sp⟩

/-- `config/DataConfig.js` by ascending id. Every function asks for a session. -/
def dataConfig : List FuncConfig :=
  [⟨"getPresent", [both .bagList, both .mapInfo, via .nodeInfo true "mapInfo.curAfkNode", both .baseInfo]⟩,
    ⟨"getRewardTime", [reads .mapInfo, via .nodeInfo false "mapInfo.curAfkNode"]⟩,
    ⟨"getPvpMainList", [reads .globalInfo, reads .pvpInfo, reads .baseInfo]⟩,
    ⟨"enrollPvpSng", [reads .globalInfo, both .pvpInfo, reads .baseInfo, reads .pvpSng]⟩,
    ⟨"getSngBoxReward", [both .pvpInfo]⟩,
    ⟨"getSngReward", [reads .bagList, both .pvpInfo, reads .baseInfo, reads .teamHeroList]⟩,
    ⟨"setMaxPower", [reads .bagList, both .baseInfo, writes .pvpSng, reads .teamHeroList]⟩,
    ⟨"enrollPvpDay", [both .globalInfo, both .pvpDay, both .pvpInfo, reads .baseInfo]⟩,
    ⟨"getPvpDayResult", [reads .pvpInfo]⟩,
    ⟨"getPvpDayF8Result", [reads .pvpDay, both .pvpInfo, both .baseInfo]⟩,
    ⟨"exitPvpSng", [both .bagList, both .pvpInfo]⟩,
    ⟨"testData", [both .globalInfo, both .bagList, both .pvpDay, both .mapInfo, both .pvpInfo, both .baseInfo,
      both .pvpWeek, both .heroInfo, both .heroInfoList, both .teamHeroList]⟩,
    ⟨"sellItemGroup", [both .bagList, both .baseInfo]⟩,
    ⟨"compose", [both .bagList]⟩,
    ⟨"useItem", [both .bagList, both .mapInfo, via .nodeInfo true "mapInfo.curNode", both .baseInfo, both .heroInfo]⟩,
    ⟨"test_addItem", [both .bagList]⟩,
    ⟨"test_addValue", [both .baseInfo]⟩,
    ⟨"getHeroInfoList", [both .heroInfoList]⟩,
    ⟨"createHero", [both .heroInfo]⟩,
    ⟨"upgradeHeroLevel", [both .baseInfo, both .heroInfo, both .teamHeroList]⟩,
    ⟨"upgradeSkillSlot", [both .baseInfo, both .heroInfo]⟩,
    ⟨"upgradeHeroStar", [both .bagList, both .baseInfo, both .heroInfo]⟩,
    ⟨"makeHeroLineup", [both .baseInfo, both .heroInfo]⟩,
    ⟨"rollHero", [writes .heroInfo, both .heroInfoList]⟩,
    ⟨"upgradeHeroQuality", [both .bagList, both .heroInfo]⟩,
    ⟨"shopHero", [both .heroBookInfo, both .bagList, reads .baseInfo]⟩,
    ⟨"refreshHeroShop", [both .heroBookInfo, reads .baseInfo]⟩,
    ⟨"washHero", [both .bagList, both .baseInfo, both .heroInfo]⟩,
    ⟨"offlineProfit", [both .bagList, both .mapInfo, via .nodeInfo true "mapInfo.curAfkNode", both .baseInfo,
      both .teamHeroList]⟩,
    ⟨"onlineProfit", [both .bagList, both .mapInfo, via .nodeInfo true "mapInfo.curAfkNode", both .baseInfo,
      both .teamHeroList]⟩,
    ⟨"setProAfkTime", [reads .mapInfo, via .nodeInfo true "mapInfo.curAfkNode"]⟩,
    ⟨"changeEquip", [reads .bagList, both .baseInfo]⟩,
    ⟨"upgradeEquipStar", [both .bagList, both .baseInfo]⟩,
    ⟨"adapterSkillSlot", [both .heroInfo]⟩,
    ⟨"getSngBoxReward", [both .bagList, both .pvpInfo]⟩,
    ⟨"splitEquip", [both .bagList, both .baseInfo]⟩,
    ⟨"makeEquip", [both .bagList]⟩,
    ⟨"unlockBag", [both .bagList, both .baseInfo]⟩,
    ⟨"meltingEquip", [both .bagList, both .baseInfo]⟩,
    ⟨"rvmeltingEquip", [both .bagList, both .baseInfo]⟩,
    ⟨"getGlobalMapInfo", [both .mapInfo]⟩,
    ⟨"enterMap", [both .mapInfo, both .nodeInfo, reads .baseInfo]⟩,
    ⟨"changeAfk", [both .mapInfo, both .nodeInfo, reads .baseInfo]⟩,
    ⟨"walkPath", [both .mapInfo, via .nodeInfo true "mapInfo.curNode"]⟩,
    ⟨"changeState", [both .bagList, both .mapInfo, via .nodeInfo true "mapInfo.curNode", both .baseInfo,
      reads .teamHeroList]⟩]

/-- `dataConfig[_data[i].funcName] = _data[i]`: of two entries with one name the later one stands. -/
def convertDataConfig (data : List FuncConfig) (funcName : String) : Option FuncConfig :=
  data.reverse.find? (·.funcName = funcName)

/-! ### Error codes -/

namespace ErrCode

def success : Nat := 0
def dataConfigError : Nat := 404
def getSessionError : Nat := 501
def pvpErollDayError : Nat := 1904
def retCodeNeedUnpack : Nat := 15000

def dataGetTeamHeroListError : Nat := 2005
def dataGetPvpSngError : Nat := 2007
def dataSetPvpSngError : Nat := 2106

/-- `ErrCode["DATA_GET_" + dataName.toUpperCase() + "_ERROR"]`: there is none for nodes. -/
def dataGet : DataName → Option Nat
  | .baseInfo => some 2001
  | .heroInfo => some 2002
  | .bagList => some 2003
  | .mapInfo => some 2004
  | .teamHeroList => some dataGetTeamHeroListError
  | .pvpInfo => some 2006
  | .pvpSng => some dataGetPvpSngError
  | .pvpDay => some 2008
  | .pvpWeek => some 2009
  | .globalInfo => some 2010
  | .heroInfoList => some 2011
  | .heroBookInfo => some 2012
  | .nodeInfo => none

/-- `ErrCode["DATA_SET_" + dataName.toUpperCase() + "_ERROR"]`: there is none for nodes and teams. -/
def dataSet : DataName → Option Nat
  | .baseInfo => some 2101
  | .heroInfo => some 2102
  | .bagList => some 2103
  | .mapInfo => some 2104
  | .pvpInfo => some 2105
  | .pvpSng => some dataSetPvpSngError
  | .pvpDay => some 2107
  | .pvpWeek => some 2108
  | .globalInfo => some 2109
  | .heroBookInfo => some 2112
  | .nodeInfo => none
  | .heroInfoList => none
  | .teamHeroList => none

/-- The response is a success, or an error the client unpacks like one. -/
def passes (retCode : Nat) : Prop := retCode = success ∨ retCodeNeedUnpack < retCode

instance (retCode : Nat) : Decidable (passes retCode) := inferInstanceAs (Decidable (_ ∨ _))

end ErrCode
end Tinygame
