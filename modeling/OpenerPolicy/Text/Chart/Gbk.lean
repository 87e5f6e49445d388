/-
  File:      OpenerPolicy/Text/Chart/Gbk.lean
  Subject:   THE CHARACTERS THAT GBK AND GB 18030 ADD TO GB 2312.

  Data only. A code is the two bytes of a character.

  * `gbkAdditions` -- the characters of GBK, of which two take the place of others;
  * `gb18030Additions` -- the further characters of two bytes of GB 18030;
  * `gb18030Starts` -- the order of its characters of four bytes.
-/
import OpenerPolicy.Text.Chart

namespace OpenerPolicy.Text

/-- The characters of GBK that are not those of GB 2312. -/
def gbkAdditions : Chart where
  runs :=
    [(0x8140, "丂丄丅丆丏丒丗丟丠両丣並丩丮丯丱丳丵丷丼乀乁乂乄乆乊乑乕乗乚乛乢乣乤乥乧乨乪乫"),
     (0x8167, "乬乭乮乯乲"),
     (0x8176, "乿亀亁亂亃亄亅亇亊"),
     (0x8180, "亐亖亗亙亜亝亞亣亪亯亰亱亴亶亷亸亹亼亽亾仈仌仏仐仒仚仛仜仠仢仦仧仩仭仮仯仱仴仸"),
     (0x81A7, "仹仺仼仾伀伂伃伄伅伆伇伈伋伌伒伓伔伕伖伜伝伡伣伨伩伬伭伮伱伳伵伷伹伻伾伿佀佁佂"),
     (0x81CE, "佄佅佇佈佉佊佋佌佒佔佖佡佢佦佨佪佫佭佮佱佲併佷佸佹佺佽侀侁侂侅來侇侊侌侎侐侒侓"),
     (0x81F5, "侕侖侘侙侚侜侞侟価侢"),
     (0x8240, "侤侫侭侰侱侲侳侴侶侷侸侹侺侻侼侽侾俀俁係俆俇俈俉俋俌俍俒俓俔俕俖俙俛俠俢俤俥俧"),
     (0x8267, "俫俬俰俲俴俵俶俷俹俻俼俽"),
     (0x8280, "個倎倐們倓倕倖倗倛倝倞倠倢倣値倧倫"),
     (0x829C, "倻倽倿偀偁偂偄偅偆偉偊偋偍偐偑偒偓偔偖偗偘偙偛偝偞偟偠偡偢偣偤偦偧偨偩偪偫偭偮"),
     (0x82C3, "偯偰偱偲偳側偵偸偹偺偼偽傁傂傃傄傆傇傉傊傋傌"),
     (0x82EE, "傤傦傪傫傭傮傯傰傱傳傴債傶傷傸傹傼"),
     (0x8352, "僐僑僒僓僔僕僗僘僙"),
     (0x8366, "僨僩僪僫僯僰僱僲僴僶僷僸價僺"),
     (0x837E, "儈"),
     (0x8380, "儉儊儌儍儎儏儐儑"),
     (0x83B3, "兂兇兊兌兎兏児兒兓兗兘兙兛兝兞兟兠兡兣兤兦內兩兪兯兲兺兾兿冃冄円冇冊冋冎冏冐冑"),
     (0x83DA, "冓冔冘冚冝冞冟冡冣冦冧冨冩冪冭冮冴冸冹冺冾冿凁凂凃凅凈凊凍凎凐凒凓凔凕凖凗"),
     (0x8440, "凘凙凚凜凞凟凢凣凥処凧凨凩凪凬凮凱凲凴凷凾刄刅刉刋刌刏刐刓刔刕刜刞刟刡刢刣別刦"),
     (0x8467, "刧刪刬刯刱刲刴刵刼刾剄剅剆則剈剉剋剎剏剒剓剕剗剘"),
     (0x8480, "剙剚剛剝剟剠剢剣剤剦剨剫剬剭剮剰剱"),
     (0x849B, "剾劀劃劄劅劆劇劉劊劋劌劍劎劏劑劒劔劕劖劗劘劙劚劜劤劥劦劧劮劯劰"),
     (0x84C4, "勀勁勂勄勅勆勈勊勌勍勎勏勑勓勔動勗務勚勛勜勝勞勠勡勢勣"),
     (0x84EA, "勱勲勳勴勵勶勷勸勻勼勽匁匂匃匄匇匉匊匋匌匎"),
     (0x8540, "匑匒匓匔匘匛匜匞匟匢匤匥匧匨匩匫匬匭"),
     (0x855C, "匼匽區卂卄卆卋卌卍卐協単卙卛卝卥卨卪卬卭卲卶卹卻卼卽卾厀厁厃厇厈厊厎厏"),
     (0x8580, "厐厑厒厓厔厖厗厙厛厜厞厠厡厤厧厪厫厬厭厯厰厱厲厳厴厵厷厸厹厺厼厽厾叀參叄叅叆叇"),
     (0x85A7, "収叏叐叒叓叕叚叜叝叞叡叢叧叴叺叾叿吀吂吅吇吋吔吘吙吚吜吢吤吥吪吰吳吶吷吺吽吿呁"),
     (0x85CE, "呂呄呅呇呉呌呍呎呏呑呚呝呞呟呠呡呣呥呧呩呪呫呬呭呮呯呰呴呹呺呾呿咁咃咅咇咈咉咊"),
     (0x85F5, "咍咑咓咗咘咜咞咟咠咡"),
     (0x8640, "咢咥咮咰咲咵咶咷咹咺咼咾哃哅哊哋哖哘哛哠員哢哣哤哫哬哯哰哱哴哵哶哷哸哹哻哾唀唂"),
     (0x8667, "唃唄唅唈唊唋唌唍唎唒唓唕唖唗唘唙唚唜唝唞唟唡唥唦"),
     (0x8680, "唨唩唫唭唲唴唵唶唸唹唺唻唽啀啂啅啇啈啋啌啍啎問啑啒啓啔啗啘啙啚啛啝啞啟啠啢啣啨"),
     (0x86A7, "啩啫啯啰啱啲啳啴啹啺啽啿喅喆喌喍喎喐喒喓喕喖喗喚喛喞喠喡喢喣喤喥喦喨喩喪喫喬喭"),
     (0x86CE, "單喯喰喲喴営喸喺喼喿嗀嗁嗂嗃嗆嗇嗈嗊嗋嗎嗏嗐嗕嗗嗘嗙嗚嗛嗞嗠嗢嗧嗩嗭嗮嗰嗱嗴嗶"),
     (0x86F5, "嗸嗹嗺嗻嗼嗿嘂嘃嘄嘅"),
     (0x8740, "嘆嘇嘊嘋嘍嘐嘑嘒嘓嘔嘕嘖嘗嘙嘚嘜嘝嘠嘡嘢嘥嘦嘨嘩嘪嘫嘮嘯嘰嘳嘵嘷嘸嘺嘼嘽嘾"),
     (0x8771, "噏噐噑噒噓噕噖噚噛噝噞噟噠噡"),
     (0x8780, "噣噥噦噧噭噮噯噰噲噳噴噵噷噸噹噺噽噾噿嚀嚁嚂嚃嚄嚇嚈嚉嚊嚋嚌嚍嚐嚑嚒"),
     (0x87BC, "嚰嚱嚲嚳嚴嚵嚶嚸嚹嚺嚻"),
     (0x87D4, "囋囌囍囎囏囐囑囒囓囕囖囘囙囜団囥囦囧囨囩囪囬囮囯囲図囶囷囸囻囼圀圁圂圅圇國圌圍"),
     (0x87FB, "圎圏圐圑"),
     (0x884A, "圝圞圠圡圢圤圥圦圧圫圱圲圴圵圶圷圸圼圽圿坁坃坄坅坆坈坉坋坒坓坔坕坖坘坙坢坣坥坧"),
     (0x8871, "坬坮坰坱坲坴坵坸坹坺坽坾坿垀"),
     (0x8880, "垁垇垈垉垊垍垎垏垐垑垔垕垖垗垘垙垚垜垝垞垟垥垨垪垬垯垰垱垳垵垶垷垹垺垻垼垽垾垿"),
     (0x88A7, "埀埁埄埅埆埇埈埉埊埌埍埐埑埓埖埗埛埜埞埡埢埣埥埦埧埨埩埪埫埬埮埰埱埲埳埵埶執埻"),
     (0x88CE, "埼埾埿堁堃堄堅堈堉堊堌堎堏堐堒堓堔堖堗堘堚堛堜堝堟堢堣堥堦堧堨堩堫堬堭堮堯報堲"),
     (0x88F5, "堳場堶堷堸堹堺堻堼堽"),
     (0x8940, "堾堿塀塁塂塃塅塆塇塈塉塊塋塎塏塐塒塓塕塖塗塙塚塛塜塝塟塠塡塢塣塤塦塧塨塩塪"),
     (0x8976, "塿墂墄墆墇墈墊墋墌"),
     (0x8980, "墍墎墏墐墑墔墕墖増墘墛墜墝墠墡墢墣墤墥墦墧"),
     (0x89A7, "墽墾墿壀壂壃壄"),
     (0x89B9, "壒壓壔"),
     (0x89CA, "壥壦壧壨壩壪壭壯壱売壴壵壷壸壺壻壼壽壾壿夀夁夃夅夆夈変夊夋夌夎夐夑夒夓夗夘夛夝"),
     (0x89F1, "夞夠夡夢夣夦夨夬夰夲夳夵夶夻"),
     (0x8A40, "夽夾夿奀奃奅奆奊奌奍奐奒奓奙奛奜奝奞奟奡奣奤"),
     (0x8A63, "奵奷奺奻奼奾奿妀妅妉妋妌妎妏妐妑妔妕妘妚妛妜妝妟妠妡妢妦"),
     (0x8A80, "妧妬妭妰妱妳妴妵妶妷妸妺妼妽妿姀姁姂姃姄姅姇姈姉姌姍姎姏姕姖姙姛姞姟姠姡姢姤姦"),
     (0x8AA7, "姧姩姪姫"),
     (0x8AB7, "姺姼姽姾娀娂娊娋娍娎娏娐娒娔娕娖娗娙娚娛娝娞娡娢娤娦娧娨娪娫娬娭娮娯娰娳娵娷娸"),
     (0x8ADE, "娹娺娻娽娾娿婁婂婃婄婅婇婈"),
     (0x8AF5, "婖婗婘婙婛婜婝婞婟婠"),
     (0x8B40, "婡婣婤婥婦婨婩婫婬婭婮婯婰婱婲婳婸婹婻婼婽婾"),
     (0x8B68, "媓媔媕媖媗媘媙"),
     (0x8B7D, "媫媬"),
     (0x8B80, "媭媮媯媰媱媴媶媷媹媺媻媼媽媿嫀嫃嫄嫅嫆嫇嫈嫊嫋嫍嫎嫏嫐嫑嫓嫕嫗嫙嫚嫛嫝嫞嫟嫢嫤"),
     (0x8BA7, "嫥嫧嫨嫪嫬嫭嫮嫯嫰"),
     (0x8BED, "嬳嬵嬶嬸嬹嬺嬻嬼嬽嬾嬿孁孂孃孄孅孆孇"),
     (0x8C40, "孈孉孊孋孌孍孎孏孒孖孞孠孡孧孨孫孭孮孯孲孴孶孷學孹孻孼孾孿宂宆宊宍宎宐宑宒宔宖"),
     (0x8C67, "実宧宨宩宬宭宮宯宱宲宷宺宻宼寀寁寃寈寉寊寋寍寎寏"),
     (0x8C80, "寑寔寕寖寗寘寙寚寛寜寠寢寣實寧審寪寫寬寭寯寱寲寳寴寵寶寷寽対尀専尃尅將專尋尌對"),
     (0x8CA7, "導尐尒尓尗尙尛尞尟尠尡尣尦尨尩尪尫尭尮尯尰尲尳尵尶尷屃屄屆屇屌屍屒屓屔屖屗屘屚"),
     (0x8CCE, "屛屜屝屟屢層屧屨屩屪屫屬屭屰屲屳屴屵屶屷屸屻屼屽屾岀岃岄岅岆岇岉岊岋岎岏岒岓岕"),
     (0x8CF5, "岝岞岟岠岡岤岥岦岧岨"),
     (0x8D40, "岪岮岯岰岲岴岶岹岺岻岼岾峀峂峃峅峆峇峈峉峊峌峍峎峏峐峑峓峔峕峖峗峘峚峛峜峝峞峟"),
     (0x8D67, "峠峢峣峧峩峫峬峮峯"),
     (0x8D7A, "峼峽峾峿崀"),
     (0x8D80, "崁崄崅崈崉崊崋崌崍崏崐崑崒崓崕崗崘崙崚崜崝崟崠崡崢崣崥崨崪崫崬崯崰崱崲崳崵崶崷"),
     (0x8DA7, "崸崹崺崻崼崿嵀嵁嵂嵃嵄嵅嵆嵈嵉"),
     (0x8DC1, "嵙嵚嵜"),
     (0x8DCF, "嵪嵭嵮嵰嵱嵲嵳"),
     (0x8DF9, "嶚嶛嶜嶞嶟嶠"),
     (0x8E63, "巆巇巈巉巊巋巌"),
     (0x8E77, "巜巟巠巣巤巪巬巭"),
     (0x8E80, "巰巵巶巸巹巺巻巼巿帀帄帇帉帊帋帍帎帒帓帗帞帟帠帡帢帣帤帥帨帩帪師帬帯帰帲帳帴帵"),
     (0x8EA7, "帶帹帺帾帿幀幁幃幆幇幈幉幊幋幍幎幏幐幑幒幓幖幗幘幙幚幜幝幟幠"),
     (0x8ED4, "幵幷幹幾庁庂広庅庈庉庌庍庎庒庘庛庝庡庢庣庤庨庩庪庫庬庮庯庰庱庲庴庺庻庼庽庿廀廁"),
     (0x8EFB, "廂廃廄廅"),
     (0x8F40, "廆廇廈廋廌廍廎廏廐廔廕廗廘廙廚"),
     (0x8F5B, "廩廫廬廭廮廯廰廱廲廳廵廸廹廻廼廽弅弆弇弉弌弍弎弐弒弔弖弙弚弜弝弞弡弢弣弤"),
     (0x8F80, "弨弫弬弮弰弲弳弴張弶強弸弻弽弾弿"),
     (0x8F9F, "彑彔彙彚彛彜彞彟彠彣彥彧彨彫彮彯彲彴彵彶彸彺彽彾彿徃徆徍徎徏徑従徔徖徚徛徝從徟"),
     (0x8FC6, "徠徢徣徤徥徦徧復徫徬徯徰徱徲徳徴徶徸徹徺徻徾徿忀忁忂忇忈忊忋忎忓忔忕忚忛応忞忟"),
     (0x8FED, "忢忣忥忦忨忩忬忯忰忲忳忴忶忷忹忺忼怇"),
     (0x9040, "怈怉怋怌怐怑怓怗怘怚怞怟怢怣怤怬怭怮怰怱怲怳怴怶怷怸怹怺怽怾恀恄恅恆恇恈恉恊恌"),
     (0x9067, "恎恏恑恓恔恖恗恘恛恜恞恟恠恡恥恦恮恱恲恴恵恷恾悀"),
     (0x9080, "悁悂悅悆悇悈悊悋悎悏悐悑悓悕悗悘悙悜悞悡悢悤悥悧悩悪悮悰悳悵悶悷悹悺悽悾悿惀惁"),
     (0x90A7, "惂惃惄惇惈惉惌惍惎惏惐惒惓惔惖惗惙惛惞惡惢惣惤惥惪惱惲惵惷惸惻惼惽惾惿愂愃愄愅"),
     (0x90CE, "愇愊愋愌愐愑愒愓愔愖愗愘愙愛愜愝愞愡愢愥愨愩愪"),
     (0x90F8, "慀慁慂慃慄慅慆"),
     (0x9140, "慇慉態慍慏慐慒慓慔慖慗慘慙慚慛慜慞慟慠慡慣慤慥慦慩慪慫慬慭慮慯慱慲慳慴慶"),
     (0x9177, "憌憍憏憐憑憒憓憕"),
     (0x9180, "憖憗憘憙憚憛憜憞憟憠憡憢憣憤憥憦憪憫"),
     (0x919C, "憸憹憺憻憼憽憿懀懁懃懄懅懆懇應懌懍懎懏懐懓"),
     (0x91D0, "懶懷懸懹懺懻懼懽懾戀戁戂戃戄戅戇戉戓戔戙戜戝戞戠戣戦戧戨戩戫戭戯戰戱戲戵戶戸戹"),
     (0x91F7, "戺戻戼扂扄扅扆扊"),
     (0x9240, "扏扐払扖扗扙扚扜扝扞扟扠扡扢扤扥扨扱扲扴扵扷扸扺扻扽抁抂抃抅抆抇抈抋抌抍抎抏抐"),
     (0x9267, "抔抙抜抝択抣抦抧抩抪抭抮抯抰抲抳抴抶抷抸抺抾拀拁"),
     (0x9280, "拃拋拏拑拕拝拞拠拡拤拪拫拰拲拵拸拹拺拻挀挃挄挅挆挊挋挌挍挏挐挒挓挔挕挗挘挙挜挦"),
     (0x92A7, "挧挩挬挭挮挰挱挳挴挵挶挷挸挻挼挾挿捀捁捄捇捈捊捑捒捓捔捖捗捘捙捚捛捜捝捠捤捥捦"),
     (0x92CE, "捨捪捫捬捯捰捲捳捴捵捸捹捼捽捾捿掁掃掄掅掆掋掍掑掓掔掕掗掙掚掛掜掝掞掟採掤掦掫"),
     (0x92F5, "掯掱掲掵掶掹掻掽掿揀"),
     (0x9340, "揁揂揃揅揇揈揊揋揌揑揓揔揕揗揘揙揚換揜揝揟揢揤揥揦揧揨揫揬揮揯揰揱揳揵揷揹揺揻"),
     (0x9367, "揼揾搃搄搆搇搈搉搊損搎搑搒搕搖搗搘搙搚搝搟搢搣搤"),
     (0x9380, "搥搧搨搩搫搮搯搰搱搲搳搵搶搷搸搹搻搼搾摀摂摃摉摋摌摍摎摏摐摑摓摕摖摗摙摚摛摜摝"),
     (0x93A7, "摟摠摡摢摣摤摥摦摨摪摫摬"),
     (0x93BD, "摻摼摽摾摿撀撁撃撆撈撉撊撋撌撍撎撏撐撓撔撗撘撚撛撜撝撟撠撡撢撣撥撦撧撨撪撫撯撱"),
     (0x93E4, "撲撳撴撶撹撻撽撾撿擁擃擄擆擇擈擉擊擋擌擏擑擓擔擕擖擙據"),
     (0x9440, "擛擜擝擟擠擡擣擥"),
     (0x9461, "攁攂攃攄攅攆攇攈攊攋攌攍攎攏攐攑攓攔攕攖攗攙攚攛攜攝攞攟攠攡"),
     (0x9480, "攢攣攤攦攧攨攩攪攬攭攰攱攲攳攷攺攼攽敀敁敂敃敄敆敇敊敋敍敎敐敒敓敔敗敘敚敜敟敠"),
     (0x94A7, "敡敤敥敧敨敩敪敭敮敯敱敳敵敶"),
     (0x94C4, "斈斉斊斍斎斏斒斔斕斖斘斚斝斞斠斢斣斦斨斪斬斮斱斲斳斴斵斶斷斸斺斻斾斿旀旂旇旈旉"),
     (0x94EB, "旊旍旐旑旓旔旕旘旙旚旛旜旝旞旟旡旣旤旪旫"),
     (0x9540, "旲旳旴旵旸旹旻旼旽旾旿昁昄昅昇昈昉昋昍昐昑昒昖昗昘昚昛昜昞昡昢昣昤昦昩昪昫昬昮"),
     (0x9567, "昰昲昳昷昸昹昺昻昽昿晀時晄晅晆晇晈晉晊晍晎晐晑晘"),
     (0x9580, "晙晛晜晝晞晠晢晣晥晧晩晪晫晬晭晱晲晳晵晸晹晻晼晽晿暀暁暃暅暆暈暉暊暋暍暎暏暐暒"),
     (0x95A7, "暓暔暕暘暙暚暛暜暞暟暠暡暢暣暤暥暦暩暪暫暬暭暯暰暱暲暳暵暶暷暸暺暻暼暽"),
     (0x95E4, "曚曞曟曠曡曢曣曤曥曧曨曪曫曬曭曮曯曱曵曶書曺曻曽朁朂會"),
     (0x9640, "朄朅朆朇朌朎朏朑朒朓朖朘朙朚朜朞朠朡朢朣朤朥朧朩朮朰朲朳朶朷朸朹朻朼朾朿杁杄杅"),
     (0x9667, "杇杊杋杍杒杔杕杗杘杙杚杛杝杢杣杤杦杧杫杬杮東杴杶"),
     (0x9680, "杸杹杺杻杽枀枂枃枅枆枈枊枌枍枎枏枑枒枓枔枖枙枛枟枠枡枤枦枩枬枮枱枲枴枹枺枻枼枽"),
     (0x96A7, "枾枿柀柂"),
     (0x96B5, "柕柖柗柛柟柡柣柤柦柧柨柪柫柭柮柲柵柶柷柸柹柺査柼柾栁栂栃栄栆栍栐栒栔栕栘栙栚栛"),
     (0x96DC, "栜栞栟栠栢栣栤栥栦栧栨栫栬栭栮栯栰栱栴栵栶栺栻栿桇桋桍桏桒桖桗桘桙桚桛"),
     (0x9740, "桜桝桞桟桪桬桭桮桯桰桱桲桳桵桸桹桺桻桼桽桾桿梀梂梄梇梈梉梊梋梌梍梎梐梑梒梔梕梖"),
     (0x9771, "梣梤梥梩梪梫梬梮梱梲梴梶梷梸"),
     (0x9780, "梹梺梻梼梽梾梿棁棃棄棅棆棇棈棊棌棎棏棐棑棓棔棖棗棙棛棜棝棞棟棡棢"),
     (0x97AA, "棯棲棳棴棶棷棸棻棽棾棿椀椂椃椄椆椇椈椉椊椌椏椑"),
     (0x97CD, "椡椢椣椥椦椧椨椩椪椫椬椮椯椱椲椳椵椶椷椸椺椻椼椾楀楁"),
     (0x97F8, "楕楖楘楙楛楜楟"),
     (0x9840, "楡楢楤楥楧楨楩楪楬業楯楰楲楳楴極楶楺楻楽楾楿榁榃榅榊榋榌榎榏榐榑榒榓榖榗榙榚"),
     (0x9870, "榩榪榬榮榯榰榲榳榵榶榸榹榺榼榽"),
     (0x9880, "榾榿槀槂槃槄槅槆槇槈槉構槍槏槑槒槓槕槖槗様槙槚槜槝槞"),
     (0x98A6, "槮槯槰槱"),
     (0x98B4, "槾"),
     (0x98CB, "標樚樛樜樝樞樠樢樣樤樥樦樧権樫樬樭樮樰樲樳樴樶樷樸樹樺樻樼樿橀橁橂橃橅橆橈橉橊"),
     (0x98F2, "橋橌橍橎橏橑橒橓橔橕橖橗橚"),
     (0x9940, "橜橝橞機橠橢橣橤"),
     (0x9953, "橲橳橴橵橶橷橸橺橻橽橾橿檁檂檃檅檆檇檈檉檊檋檌檍檏檒檓檔檕檖檘檙檚檛檜檝檞檟檡"),
     (0x997A, "檢檣檤檥檦"),
     (0x9980, "檧檨檪"),
     (0x99F6, "欥欦欨欩欪欫欬欭欮"),
     (0x9A40, "欯欰欱欳欴欵欶欸欻欼欽欿歀歁歂歄歅歈歊歋"),
     (0x9A60, "歚歛歜歝歞歟歠歡歨歩"),
     (0x9A78, "歺歽歾歿殀殅殈"),
     (0x9A80, "殌殎殏殐殑殔殕殗殘殙殜殝殞殟殠殢殣殤殥殦殧殨殩殫殬殭殮殯殰殱殲殶殸殹殺殻殼殽殾"),
     (0x9AA7, "毀毃毄毆毇毈毉毊毌毎毐毑毘毚毜毝毞毟毠毢毣毤毥毦毧毨毩毬毭毮毰毱毲毴毶毷毸毺毻"),
     (0x9ACE, "毼毾毿氀氁氂氃氄氈氉氊氋氌氎氒気氜氝氞氠氣氥氫氬氭氱氳氶氷氹氺氻氼氾氿汃汄汅汈"),
     (0x9AF5, "汋汌汍汎汏汑汒汓汖汘"),
     (0x9B40, "汙汚汢汣汥汦汧汫汬汭汮汯汱汳汵汷汸決汻汼汿沀沄沇沊沋沍沎沑沒沕沖沗沘沚沜沝沞沠"),
     (0x9B67, "沢沨沬沯沰沴沵沶沷沺泀況泂泃泆泇泈泋泍泎泏泑泒泘"),
     (0x9B80, "泙泚泜泝泟泤泦泧泩泬泭泲泴泹泿洀洂洃洅洆洈洉洊洍洏洐洑洓洔洕洖洘洜洝洟洠洡洢洣"),
     (0x9BA7, "洤洦洨洩洬洭洯洰洴洶洷洸洺洿浀浂浄浉浌浐浕浖浗浘浛浝浟浡浢浤浥浧浨浫浬浭浰浱浲"),
     (0x9BCE, "浳浵浶浹浺浻浽浾浿涀涁涃涄涆涇涊涋涍涏涐涒涖涗涘涙涚涜涢涥涬涭涰涱涳涴涶涷涹涺"),
     (0x9BF5, "涻涼涽涾淁淂淃淈淉淊"),
     (0x9C40, "淍淎淏淐淒淓淔淕淗淚淛淜淟淢淣淥淧淨淩淪淭淯淰淲淴淵淶淸淺淽淾淿渀渁渂渃渄渆渇"),
     (0x9C67, "済渉渋渏渒渓渕渘渙減渜渞渟渢渦渧渨渪測渮渰渱渳渵"),
     (0x9C80, "渶渷渹渻渼渽渾渿湀湁湂湅湆湇湈湉湊湋湌湏湐湑湒湕湗湙湚湜湝湞"),
     (0x9CA9, "湬湭"),
     (0x9CBA, "満溁溂溄溇溈溊溋溌溍溎溑溒溓溔溕準溗溙溚溛溝溞溠溡溣溤溦溨溩溫溬溭溮溰溳溵溸溹"),
     (0x9CE1, "溼溾溿滀滃滄滅滆滈滉滊滌滍滎滐滒滖滘滙滛滜滝滣滧滪滫滬滭滮滯"),
     (0x9D40, "滰滱滲滳滵滶滷滸滺滻滼滽滾滿漀漁漃漄漅漇漈漊漋漌漍漎漐漑漒"),
     (0x9D67, "漡漢漣漥漦漧漨漬漮漰漲漴漵漷漸漹漺漻漼漽漿潀潁潂"),
     (0x9D80, "潃潄潅潈潉潊潌"),
     (0x9D91, "潙潚潛潝潟潠潡潣潤潥潧潨潩潪潫潬潯潰潱潳潵潶潷潹潻潽潾潿澀澁澂澃澅澆澇澊澋"),
     (0x9DC3, "澝澞澟澠澢澣澤澥澦"),
     (0x9DD7, "澴澵澷澸澺澻澼澽澾澿濁濃濄濅濆濇濈濊濋濌濍濎濏濐"),
     (0x9DFA, "濟濢濣濤濥"),
     (0x9E40, "濦濧濨濩濪濫濬濭"),
     (0x9E69, "瀒瀓瀔瀕瀖瀗瀘瀙瀜瀝瀞瀟瀠瀡瀢瀤瀥瀦瀧瀨瀩瀪"),
     (0x9E8A, "瀶瀷瀸"),
     (0x9E9F, "灍灎"),
     (0x9EBB, "灮灱灲灳灴灷灹灺灻災炁炂炃炄炆炇炈炋炌炍炏炐炑炓炗炘炚炛"),
     (0x9EE4, "炰炲炴炵炶為炾炿烄烅烆烇烉"),
     (0x9EFE, "烚"),
     (0x9F40, "烜烝烞烠烡烢烣烥烪烮烰烱烲烳烴烵烶烸烺烻烼"),
     (0x9F60, "焋焌焍焎焏焑焒焔焗"),
     (0x9F74, "焧焨焩焪焫焬焭焮焲焳焴"),
     (0x9F80, "焵"),
     (0x9F8F, "煆煇煈煉煋煍"),
     (0x9FA2, "煝煟煠煡煢煣煥煩煪煫煬煭煯煰煱煴煵煶煷煹煻煼煾煿熀熁熂熃熅熆熇熈熉熋熌熍熎熐熑"),
     (0x9FC9, "熒熓熕熖熗熚熛熜熝熞熡熢熣熤熥熦熧熩熪熫熭熮熯熰熱熲熴熶熷熸熺熻熼熽熾熿燀燁燂"),
     (0x9FFA, "燏燐燑燒燓"),
     (0xA04A, "燡燢燣燤燦燨燩燪燫燬燭"),
     (0xA080, "爛爜"),
     (0xA08C, "爩爫爭爮爯爲爳爴爺爼爾牀牁牂牃牄牅牆牉牊牋牎牏牐牑牓牔牕牗牘牚牜牞牠牣牤牥牨牪"),
     (0xA0B3, "牫牬牭牰牱牳牴牶牷牸牻牼牽犂犃犅犆犇犈犉犌犎犐犑"),
     (0xA0E3, "犮犱犲犳犵犺犻犼犽犾犿狀狅狆狇狉狊狋狌狏狑狓狔狕狖狘狚狛"),
     (0xA1A4, "·"),
     (0xA1AA, "—"),
     (0xA6E0, "︵︶︹︺︿﹀︽︾﹁﹂﹃﹄"),
     (0xA6EE, "︻︼︷︸︱"),
     (0xA6F4, "︳︴"),
     (0xA840, "\u02ca\u02cb˙–―‥‵℅℉↖↗↘↙∕∟∣≒≦≧⊿"),
     (0xA878, "▁▂▃▄▅▆▇"),
     (0xA880, "█▉▊▋▌▍▎▏▓▔▕▼▽◢◣◤◥☉⊕〒〝〞"),
     (0xA8BB, "ɑ"),
     (0xA8BD, "ńň"),
     (0xA8C0, "ɡ"),
     (0xA940, "〡〢〣〤〥〦〧〨〩㊣㎎㎏㎜㎝㎞㎡㏄㏎㏑㏒㏕︰￢￤"),
     (0xA959, "℡㈱"),
     (0xA95C, "‐"),
     (0xA960, "\u30fc゛゜\u30fd\u30fe〆\u309d\u309e"),
     (0xA972, "﹔﹕﹖﹗﹙﹚﹛﹜﹝﹞﹟﹠﹡"),
     (0xA980, "﹢﹣﹤﹥﹦﹨﹩﹪﹫"),
     (0xA996, "〇"),
     (0xAA40, "狜狝狟狢狣狤狥狦狧狪狫狵狶狹狽狾狿猀猂猄猅猆猇猈猉猋猌猍猏猐猑猒猔猘猙猚猟猠猣"),
     (0xAA67, "猤猦猧猨猭猯猰猲猳猵猶猺猻猼猽獀獁獂獃獄獅獆獇獈"),
     (0xAA80, "獉獊獋獌獎獏獑獓獔獕獖獘獙獚獛獜獝獞獟"),
     (0xAA9E, "獮獰獱"),
     (0xAB4C, "獿玀玁玂玃玅玆玈玊玌玍玏玐玒玓玔玕玗玘玙玚玜玝玞玠玡玣玤玥玦玧玨玪玬玭玱玴玵玶"),
     (0xAB73, "玸玹玼玽玾玿珁珃珄珅珆珇"),
     (0xAB80, "珋珌珎珒珓珔珕珖珗珘珚珛珜珝珟珡珢珣珤珦珨珪珫珬珮珯珰珱珳珴珵珶珷"),
     (0xAC4B, "琄琇琈琋琌琍琎琑琒琓琔琕琖琗琘琙琜琝琞琟琠琡琣琤琧琩琫琭琯琱琲琷琸琹琺琻琽琾琿"),
     (0xAC72, "瑀"),
     (0xAC80, "瑎瑏瑐瑑瑒瑓瑔瑖瑘瑝"),
     (0xAC97, "瑮瑯瑱瑲瑳瑴瑵瑸瑹瑺"),
     (0xAD40, "瑻瑼瑽瑿璂璄璅璆璈璉璊璌璍璏"),
     (0xAD59, "璝璟璠璡璢璣璤璥璦"),
     (0xAD8A, "瓓瓔瓕瓖瓗瓘瓙瓚瓛瓝瓟瓡瓥瓧瓨瓩瓪瓫瓬瓭瓰瓱瓲"),
     (0xAE40, "瓳瓵瓸瓹瓺瓻瓼瓽瓾甀甁甂甃甅甆甇甈甉甊甋甌甎甐甒甔甕甖甗甛甝甞甠甡產産甤甦甧甪"),
     (0xAE67, "甮甴甶甹甼甽甿畁畂畃畄畆畇畉畊畍畐畑畒畓畕畖畗畘"),
     (0xAE80, "畝畞畟畠畡畢畣畤畧畨畩畫畬畭畮畯異畱畳畵當畷畺畻畼畽畾疀疁疂疄疅疇"),
     (0xAF40, "疈疉疊疌疍疎疐疓疕疘疛疜疞疢疦疧疨疩疪疭疶疷疺疻疿痀痁痆痋痌痎痏痐痑痓痗痙痚痜"),
     (0xAF67, "痝痟痠痡痥痩痬痭痮痯痲痳痵痶痷痸痺痻痽痾瘂瘄瘆瘇"),
     (0xAF80, "瘈瘉瘋瘍瘎瘏瘑瘒瘓瘔瘖瘚瘜瘝瘞瘡瘣瘧瘨瘬瘮瘯瘱瘲瘶瘷瘹瘺瘻瘽癁療癄"),
     (0xB040, "癅癆癇癈癉癊癋癎癏癐癑癒癓癕癗癘癙癚癛癝癟癠癡癢癤癥癦癧癨癩癪癬癭癮癰癱癲癳癴"),
     (0xB067, "癵癶癷癹発發癿皀皁皃皅皉皊皌皍皏皐皒皔皕皗皘皚皛"),
     (0xB080, "皜皝皞皟皠皡皢皣皥皦皧皨皩皪皫皬皭皯皰皳"),
     (0xB09E, "盀盁盃"),
     (0xB140, "盄盇盉盋盌盓盕盙盚盜盝盞盠盡盢監盤盦盧盨盩盪盫盬盭盰盳盵盶盷盺盻盽盿眀眂眃眅眆"),
     (0xB167, "眊県"),
     (0xB174, "眛眜眝眞眡眣眤眥眧眪眫"),
     (0xB180, "眬眮眰眱眲眳眴眹眻眽眾眿睂睄睅睆睈睉睊睋睌睍睎睏睒睓睔睕睖睗睘睙睜"),
     (0xB240, "睝睞睟睠睤睧睩睪"),
     (0xB254, "睺睻睼瞁瞂瞃瞆瞇瞈瞉瞊瞋瞏瞐"),
     (0xB26E, "瞡瞣瞤瞦瞨瞫瞭瞮瞯瞱瞲瞴瞶瞷瞸瞹瞺"),
     (0xB280, "瞼瞾"),
     (0xB28F, "矎矏矐矑矒矓矔矕矖矘矙矚矝矞矟矠矡矤"),
     (0xB340, "矦矨矪矯矰矱矲矴矵矷矹矺矻矼砃砄砅砆砇砈砊砋砎砏砐砓砕砙砛砞砠砡砢砤砨砪砫砮砯"),
     (0xB367, "砱砲砳砵砶砽砿硁硂硃硄硆硈硉硊硋硍硏硑硓硔硘硙硚"),
     (0xB380, "硛硜"),
     (0xB38E, "硯硰硱硲硳硴硵硶硸硹硺硻硽硾硿碀碁碂碃"),
     (0xB440, "碄碅碆碈碊碋碏碐碒碔碕碖碙碝碞碠碢碤碦碨碩碪碫碬碭碮碯碵碶碷碸確碻碼碽碿磀磂磃"),
     (0xB467, "磄磆磇磈磌磍磎磏磑磒磓磖磗磘"),
     (0xB480, "磤磥磦磧磩磪磫磭磮磯磰磱磳磵磶磸磹磻磼磽磾磿礀礂礃礄礆礇礈礉礊礋礌"),
     (0xB540, "礍礎礏礐礑礒"),
     (0xB550, "礟礠礡礢礣"),
     (0xB564, "礵礶礷礸礹礽礿祂祃祄祅祇祊祋祌祍祎祏祐祑祒祔祕祘祙祡祣"),
     (0xB580, "祤祦祩祪祫祬祮祰祱祲祳祴祵祶祹祻祼祽祾祿禂禃禆禇禈禉禋禌禍禎禐禑禒"),
     (0xB640, "禓禔禕禖禗禘禙"),
     (0xB65E, "禴禵禶禷禸禼禿秂秄秅秇秈秊秌秎秏秐秓秔秖秗秙秚秛秜秝秞秠秡秢秥秨秪"),
     (0xB680, "秬秮秱秲秳秴秵秶秷秹秺秼秾秿稁稄稅稇稈稉稊稌稏稐稑稒稓稕稖稘稙稛稜"),
     (0xB740, "稝稟稡稢"),
     (0xB753, "稴稵稶稸稺稾穀穁穂穃穄穅"),
     (0xB769, "穒穓穔穕穖"),
     (0xB780, "穩穪穫穬穭穮穯穱穲穳穵穻穼穽穾窂窅窇窉窊窋窌窎窏窐窓窔窙窚窛窞窡窢"),
     (0xB840, "窣窤窧窩窪窫窮窯窰窱窲"),
     (0xB86B, "竗竘竚竛竜竝竡竢竤竧竨竩竪竫竬竮竰竱竲竳"),
     (0xB880, "竴竵競竷竸竻竼竾笀笁笂笅笇笉笌笍笎笐笒笓笖笗笘笚笜笝笟笡笢笣笧笩笭"),
     (0xB940, "笯笰笲笴笵笶笷笹笻笽笿筀筁筂筃筄筆筈筊筍筎筓筕筗筙筜筞筟筡"),
     (0xB968, "筯筰筳筴筶筸筺筼筽筿箁箂箃箄箆箇箈箉箊箋箌箎箏"),
     (0xB980, "箑箒箓箖箘箙箚箛箞箟箠箣箤箥箮箯箰箲箳箵箶箷箹箺箻箼箽箾箿節篂篃範"),
     (0xBA40, "篅篈築篊篋篍篎篏篐篒篔篕篖篗篘篛篜篞篟篠篢篣篤篧篨篩篫篬篭篯篰篲篳篴篵篶篸篹篺"),
     (0xBA67, "篻篽篿簀簁簂簃簄簅簆簈簉簊簍簎簐簑簒簓簔簕簗簘簙"),
     (0xBA80, "簚簛簜簝簞簠簡簢簣簤簥簨簩"),
     (0xBA9A, "簹簺簻簼簽簾籂"),
     (0xBB6F, "籵籶籷籸籹籺"),
     (0xBB80, "粈粊粋粌粍粎粏粐粓粔粖粙粚粛粠粡粣粦粧粨粩粫粬粭粯粰粴粵粶粷粸粺粻"),
     (0xBC40, "粿糀糂糃糄糆糉糋糎糏糐糑糒糓糔糘糚糛糝糞糡糢糣糤糥糦糧糩糪糫糬糭糮糰糱糲糳糴糵"),
     (0xBC67, "糶糷糹糺"),
     (0xBC79, "紋紌納紎紏紐"),
     (0xBC8F, "紡紣紤紥紦紨紩紪紬紭紮細紱紲紳紴紵紶"),
     (0xBD77, "絯絰統絲絳絴絵絶"),
     (0xBE4D, "綧綨綩綪綫綬維"),
     (0xBF80, "縺縼總績縿繀繂繃繄繅繆"),
     (0xC07C, "纜纝纞"),
     (0xC080, "纮纴纻纼绖绤绬绹缊缐缞缷缹缻缼缽缾缿罀罁罃"),
     (0xC09F, "罒罓"),
     (0xC140, "罖罙罛罜罝罞罠罣罤罥罦罧罫罬罭罯罰罳罵罶罷罸罺罻罼罽罿羀羂羃羄羅羆羇羈羉羋羍羏"),
     (0xC167, "羐羑羒羓羕羖羗羘羙羛羜羠羢羣羥羦羨義羪羫羬羭羮羱"),
     (0xC180, "羳羴羵羶羷羺羻羾翀翂翃翄翆翇翈翉翋翍翏翐翑習翓翖翗翙翚翛翜翝翞翢翣"),
     (0xC240, "翤翧翨翪翫翬翭翯翲翴翵翶翷翸翹翺翽翾翿耂耇耈耉耊耎耏耑耓耚耛耝耞耟耡耣耤耫耬耭"),
     (0xC267, "耮耯耰耲耴耹耺耼耾聀聁聄聅聇聈聉聎聏聐聑聓聕聖聗"),
     (0xC280, "聙"),
     (0xC28F, "聫聬聭聮聯聰"),
     (0xC340, "聾肁肂肅肈肊肍肎肏肐肑肒肔肕肗肙肞肣肦肧肨肬肰肳肵肶肸肹肻胅胇胈胉胊胋胏胐胑胒"),
     (0xC367, "胓胔胕胘胟胠胢胣胦胮胵胷胹胻胾胿脀脁脃脄脅脇脈脋"),
     (0xC380, "脌脕脗脙脛脜脝"),
     (0xC394, "脭脮脰脳脴脵脷脹脺脻脼脽脿"),
     (0xC440, "腀腁腂腃腄腅腇腉腍腎腏腒腖腗腘腛腜腝腞腟腡腢腣腤腦腨腪腫腬腯腲腳腵腶腷腸膁膃膄"),
     (0xC467, "膅膆膇膉膋膌膍膎膐膒膓膔膕膖膗膙膚膞膟膠膡膢膤膥"),
     (0xC480, "膧膩膫膬膭膮膯膰膱膲膴膵膶膷膸膹膼膽膾膿臄臅臇臈臉臋臍臎臏臐臑臒臓"),
     (0xC54F, "臤臥臦臨臩臫臮臯臰臱臲臵臶臷臸臹臺臽臿舃與興舉舊舋舎舏舑舓舕舖舗舘舙舚舝舠舤舥"),
     (0xC576, "舦舧舩舮舲舺舼舽舿"),
     (0xC580, "艀艁艂艃艅艆艈艊艌艍艎艐艑艒艓艔艕艖艗艙艛艜艝艞艠艡艢艣艤艥艦艧艩"),
     (0xC640, "艪艫艬艭艱艵艶艷艸艻艼芀芁芃芅芆芇芉芌芐芓芔芕芖芚芛芞芠芢芣芧芲芵芶芺芻芼芿苀"),
     (0xC667, "苂苃苅苆苉苐苖苙苚苝苢苧苨苩苪苬苭苮苰苲苳苵苶苸"),
     (0xC680, "苺苼苽苾苿茀茊茋茍茐茒茓茖茘茙"),
     (0xC699, "茩茪茮茰茲茷茻茽"),
     (0xC740, "茾茿荁荂荄荅荈荊荋荌荍荎荓荕荖荗荘荙荝荢荰荱荲荳荴荵荶荹荺荾荿莀莁莂莃莄莇莈莊"),
     (0xC767, "莋莌莍莏莐莑莔莕莖莗莙莚莝莟莡莢莣莤莥莦莧莬莭莮"),
     (0xC780, "莯莵莻莾莿菂菃菄菆菈菉菋菍菎菐菑菒菓菕菗菙菚菛菞菢菣菤菦菧菨菫菬菭"),
     (0xC840, "菮華菳菴菵菶菷菺菻菼菾菿萀萂萅萇萈萉萊萐萒萓萔萕萖萗萙萚萛萞萟萠萡萢萣萩萪萫萬"),
     (0xC867, "萭萮萯萰萲萳萴萵萶萷萹萺萻萾萿葀葁葂葃葄葅葇葈葉"),
     (0xC880, "葊葋葌葍葎葏葐葒葓葔葕葖葘葝葞葟葠葢葤葥葦葧葨葪葮葯葰葲葴葷葹葻葼"),
     (0xC940, "葽葾葿蒀蒁蒃蒄蒅蒆蒊蒍蒏蒐蒑蒒蒓蒔蒕蒖蒘蒚蒛蒝蒞蒟蒠"),
     (0xC967, "蒰蒱蒳蒵蒶蒷蒻蒼蒾蓀蓂蓃蓅蓆蓇蓈蓋蓌蓎蓏蓒蓔蓕蓗"),
     (0xC980, "蓘蓙蓚蓛蓜蓞蓡蓢蓤蓧蓨蓩蓪蓫蓭蓮蓯"),
     (0xC99C, "蓽蓾蔀蔁蔂"),
     (0xCA40, "蔃蔄蔅蔆蔇蔈蔉蔊蔋蔍蔎蔏蔐蔒蔔蔕蔖蔘蔙蔛蔜蔝蔞蔠蔢蔣蔤蔥蔦蔧蔨蔩蔪"),
     (0xCA6B, "蔾蔿蕀蕁蕂蕄蕅蕆蕇"),
     (0xCA80, "蕗蕘蕚蕛蕜蕝蕟蕠蕡蕢蕣蕥蕦蕧蕩蕪蕫蕬蕭蕮蕯蕰蕱蕳蕵蕶蕷蕸蕼蕽蕿薀薁"),
     (0xCB40, "薂薃薆薈薉薊薋薌薍薎"),
     (0xCB55, "薝薞薟薠薡薢薣薥薦薧薩薫薬薭薱薲薳薴薵薶薸薺薻薼薽薾薿藀藂藃藄藅藆藇藈藊藋藌藍"),
     (0xCB7C, "藎藑藒"),
     (0xCB80, "藔藖藗藘藙藚藛藝藞藟藠藡藢藣藥藦藧藨"),
     (0xCC40, "藹藺藼藽藾蘀蘁蘂蘃蘄"),
     (0xCC55, "蘒蘓蘔蘕"),
     (0xCC69, "蘨"),
     (0xCC78, "蘹蘺蘻蘽蘾蘿虀"),
     (0xCC8C, "虒虓處虖虗虘虙虛虜虝號虠虡虣虤虥虦虧虨虩虪"),
     (0xCD40, "虭虯虰虲虳虴虵虶虷虸蚃蚄蚅蚆蚇蚈蚉蚎蚏蚐蚑蚒蚔蚖蚗蚘蚙蚚蚛蚞蚟蚠蚡蚢蚥蚦蚫蚭蚮"),
     (0xCD67, "蚲蚳蚷蚸蚹蚻蚼蚽蚾蚿蛁蛂蛃蛅蛈蛌蛍蛒蛓蛕蛖蛗蛚蛜"),
     (0xCD80, "蛝蛠蛡蛢蛣蛥蛦蛧蛨蛪蛫蛬蛯蛵蛶蛷蛺蛻蛼蛽蛿蜁蜄蜅蜆蜋蜌蜎蜏蜐蜑蜔蜖"),
     (0xCE40, "蜙蜛蜝蜟蜠蜤蜦蜧蜨蜪蜫蜬蜭蜯蜰蜲蜳蜵蜶蜸蜹蜺蜼蜽蝀蝁蝂蝃蝄蝅蝆蝊蝋蝍蝏蝐蝑蝒蝔"),
     (0xCE67, "蝕蝖蝘蝚蝛蝜蝝蝞蝟蝡蝢蝦蝧蝨蝩蝪蝫蝬蝭蝯蝱蝲蝳蝵"),
     (0xCE80, "蝷蝸蝹蝺蝿螀螁螄螆螇螉螊螌螎螏螐螑螒螔螕螖螘螙螚螛螜螝螞螠螡螢螣螤"),
     (0xCF40, "螥螦螧螩螪螮螰螱螲螴螶螷螸螹螻螼螾螿蟁蟂蟃蟄蟅蟇蟈蟉蟌蟍蟎蟏蟐蟔蟕蟖蟗蟘蟙蟚蟜"),
     (0xCF67, "蟝蟞蟟蟡蟢蟣蟤蟦蟧蟨蟩蟫蟬蟭"),
     (0xCF80, "蟺蟻蟼蟽蟿蠀蠁蠂蠄蠅蠆蠇蠈蠉蠋蠌蠍蠎蠏蠐蠑蠒蠔蠗蠘蠙蠚蠜蠝蠞蠟蠠蠣"),
     (0xD04E, "蠳蠴蠵蠶蠷蠸蠺蠻蠽蠾蠿衁衂衃衆衇衈衉衊衋衎衏衐衑衒術衕衖衘衚衛衜衝衞衟衠衦衧衪"),
     (0xD075, "衭衯衱衳衴衵衶衸衹衺"),
     (0xD080, "衻衼袀袃袆袇袉袊袌袎袏袐袑袓袔袕袗袘袙袚袛袝袞袟袠袡袣袥袦袧袨袩袪"),
     (0xD140, "袬袮袯袰袲袳袴袵袶袸袹袺袻袽袾袿裀裃裄裇裈裊裋裌裍裏裐裑裓裖裗裚裛補裝裞裠裡裦"),
     (0xD167, "裧裩裪裫裬裭裮裯裲裵裶裷裺裻製裿褀褁褃褄褅褆複褈"),
     (0xD180, "褉褋褌褍褎褏褑褔褕褖褗褘褜褝褞褟褠褢褣褤褦褧褨褩褬褭褮褯褱褲褳褵褷"),
     (0xD240, "褸褹褺褻褼褽褾褿襀襂襃"),
     (0xD264, "襠襡襢襣襤襥"),
     (0xD27E, "襼"),
     (0xD280, "襽襾覀覂覄覅"),
     (0xD35F, "觃觍觓觔觕觗觘觙觛觝觟觠觡觢觤觧觨觩觪觬觭觮觰觱觲觴觵觶觷觸觹觺"),
     (0xD380, "觻觼觽觾觿訁訂訃訄訅訆"),
     (0xD460, "訿詀詁詂詃詄詅詆詇"),
     (0xD49A, "詺詻詼詽詾詿誀"),
     (0xD540, "誁誂誃誄誅誆誇誈誋誌認誎誏誐誑誒"),
     (0xD680, "謤謥"),
     (0xD760, "譧譨譩譪譫"),
     (0xD799, "讬讱讻诇诐诪谉谞"),
     (0xD840, "谸谹谺谻谼谽谾谿豀豂豃豄豅豈豊豋豍豎豏豐豑豒豓豔豖豗豘豙豛豜豝豞豟豠豣豤豥豦豧"),
     (0xD867, "豨豩豬豭豮豯豰豱豲豴豵豶豷豻豼豽豾豿貀貁貃貄貆貇"),
     (0xD880, "貈貋貍貎貏貐貑貒貓貕貖貗"),
     (0xDA4F, "贠赑赒赗赟赥赨赩赪赬赮赯赱赲赸赹赺赻赼赽赾赿趀趂趃趆趇趈趉趌趍趎趏趐趒趓"),
     (0xDA7D, "趠趡"),
     (0xDA80, "趢"),
     (0xDA8E, "趲趶趷趹趻趽跀跁跂跅跇跈跉跊跍跐跒跓跔"),
     (0xDB40, "跕跘跙跜跠跡跢跥跦跧跩跭跮跰跱跲跴跶跼跾跿踀踁踂踃踄踆踇踈踋踍踎踐踑踒踓踕踖踗"),
     (0xDB67, "踘踙踚踛踜踠踡踤踥踦踧踨踫踭踰踲踳踴踶踷踸踻踼踾"),
     (0xDB80, "踿蹃蹅蹆蹌蹍蹎蹏蹐蹓蹔蹕蹖蹗蹘"),
     (0xDB9B, "蹧蹨蹪蹫蹮蹱"),
     (0xDC40, "蹳蹵蹷蹸蹹蹺蹻蹽蹾躀躂躃躄躆躈躉躊躋躌躍躎躑躒躓躕躖躗躘躙躚躛躝"),
     (0xDC6C, "躭躮躰躱躳躴躵躶躷躸躹躻躼躽躾躿軀軁軂"),
     (0xDE61, "轪辀辌辒辝辠辡辢辤辥辦辧辪辬辭辮辯農辳辴辵辷辸辺辻込辿迀迃迆"),
     (0xDE80, "迉迊迋迌迍迏迒迖迗迚迠迡迣迧迬迯迱迲迴迵迶迺迻迼迾迿逇逈逌逎逓逕逘"),
     (0xDF40, "這逜連逤逥逧逨逩逪逫逬逰週進逳逴逷逹逺逽逿遀遃遅遆遈遉遊運遌過達違遖遙遚遜遝遞"),
     (0xDF67, "遟遠遡遤遦遧適遪遫遬遯遰遱遲遳遶遷選遹遺遻遼遾邁"),
     (0xDF80, "還邅邆邇邉邊邌邍邎邏邐邒邔邖邘邚邜邞邟邠邤邥邧邨邩邫邭邲邷邼邽邿郀"),
     (0xE040, "郂郃郆郈郉郋郌郍郒郔郕郖郘郙郚郞郟郠郣郤郥郩郪郬郮郰郱郲郳郵郶郷郹郺郻郼郿鄀鄁"),
     (0xE067, "鄃"),
     (0xE07C, "鄚鄛鄜"),
     (0xE080, "鄝鄟鄠鄡"),
     (0xE08F, "鄰鄲鄳鄴鄵鄶鄷鄸鄺鄻鄼鄽鄾鄿酀酁酂酄"),
     (0xE140, "酅酇酈酑酓酔酕酖酘酙酛酜酟酠酦酧酨酫酭酳酺酻酼醀醁醂醃醄醆醈醊醎醏醓醔醕醖醗醘"),
     (0xE167, "醙醜醝醞醟醠醡醤醥醦醧醨醩醫醬醰醱醲醳醶醷醸醹醻"),
     (0xE18B, "釈釋釐"),
     (0xE198, "針釞釟釠釡釢釣釤釥"),
     (0xE380, "銆銇銈銉銊銋銌銍"),
     (0xE440, "銨銩銪銫銬銭"),
     (0xE5A0, "鍫"),
     (0xE69E, "鏋鏌鏍"),
     (0xE740, "鏎鏏鏐鏑鏒鏓鏔鏕"),
     (0xE87B, "鑬鑭鑮鑯"),
     (0xE895, "钑钖钘铇铏铓铔铚铦铻锜锠"),
     (0xE940, "锧锳锽镃镈镋镕镚镠镮镴镵長镸镹镺镻镼镽镾"),
     (0xEA5C, "闬闿阇阓阘阛阞阠阣阤阥阦阧阨阩阫阬阭阯阰阷阸阹阺阾陁陃陊陎陏陑陒陓陖陗"),
     (0xEA80, "陘陙陚陜陝陞陠陣陥陦陫陭陮陯陰陱陳"),
     (0xEA9E, "隇隉隊"),
     (0xEB40, "隌階隑隒隓隕隖隚際"),
     (0xEB53, "隨隩險隫隬隭隮隯隱隲隴隵隷隸隺隻隿雂雃雈雊雋雐雑雓雔"),
     (0xEB77, "雡離難雤雥雦雧雫"),
     (0xEB80, "雬雭雮雰雱雲雴雵雸雺電雼雽雿霂霃霅霊霋霌霐霑霒霔霕霗霘霙霚霛霝霟霠"),
     (0xEC40, "霡霢霣霤霥霦霧霨霩霫霬霮霯霱霳霴霵霶霷霺霻霼霽"),
     (0xEC6A, "靔靕靗靘靚靜靝靟靣靤靦靧靨靪靫靬靭靮靯靰靱"),
     (0xEC80, "靲靵靷靸靹靺靻靽靾靿鞀鞁鞂鞃鞄鞆鞇鞈鞉鞊鞌鞎鞏鞐鞓鞕鞖鞗鞙鞚鞛鞜鞝"),
     (0xED40, "鞞鞟鞡鞢鞤鞥鞦鞧鞨鞩鞪鞬鞮鞰鞱鞳"),
     (0xED80, "韤韥韨韮韯韰韱韲韴"),
     (0xEF40, "顯顰顱顲顳顴颋颎颒颕颙颣"),
     (0xEF72, "飏飐飔飖飗飛飜飝飠飡飢飣飤"),
     (0xEF80, "飥飦"),
     (0xF040, "餈餉養餋餌餎餏"),
     (0xF097, "饤饦饳饸饹饻饾馂馃馉"),
     (0xF140, "馌馎"),
     (0xF14D, "馦馧"),
     (0xF352, "驲骃骉骍骎骔骕骙骦骩骪骫骬骭骮骯骲骳骴骵骹骻骽骾骿髃髄髆髇髈髉髊髍髎髏髐髒體髕"),
     (0xF379, "髖髗髙髚髛髜"),
     (0xF380, "髝髞髠髢髣髤髥髧髨髩髪髬髮髰髱髲髳髴髵髶髷髸髺髼髽髾髿鬀鬁鬂鬄鬅鬆"),
     (0xF440, "鬇鬉鬊鬋鬌鬍鬎鬐鬑鬒"),
     (0xF455, "鬠鬡鬢"),
     (0xF463, "鬰鬱鬳鬴鬵鬶鬷鬸鬹鬺鬽鬾鬿魀魆魊魋魌魎魐魒魓魕魖魗魘魙魚"),
     (0xF780, "鱻鱽鱾鲀鲃鲄鲉鲊鲌鲏鲓鲖鲗鲘鲙鲝鲪鲬鲯鲹鲾鲿鳀鳁鳂鳈鳉鳑鳒鳚鳛鳠鳡"),
     (0xFB5C, "鸤鸧鸮鸰鸴鸻鸼鹀鹍鹐鹒鹓鹔鹖鹙鹝鹟鹠鹡鹢鹥鹮鹯鹲"),
     (0xFB7E, "麀"),
     (0xFB80, "麁麃麄麅麆麉麊麌麍麎麏麐麑麔麕麖麗麘麙麚麛麜麞麠麡麢麣麤麥麧麨麩麪"),
     (0xFC40, "麫麬麭麮麯麰麱麲麳麵麶麷麹麺麼麿黀黁黂黃黅黆黇黈黊黋黌黐黒黓黕黖黗黙黚點黡黣黤"),
     (0xFC67, "黦黨黫黬黭黮黰黱黲黳黴黵黶黷黸黺黽黿鼀鼁鼂鼃鼄鼅"),
     (0xFC80, "鼆鼇鼈鼉鼊鼌鼏鼑鼒鼔鼕鼖鼘鼚鼛鼜鼝鼞鼟鼡鼣鼤鼥鼦鼧鼨鼩鼪鼫鼭鼮鼰鼱"),
     (0xFD40, "鼲鼳鼴鼵鼶鼸鼺鼼鼿齀齁齂齃"),
     (0xFD80, "齹齺齻齼齽齾龁龂"),
     (0xFD94, "龜龝龞龡龢龣龤龥\uf92c\uf979\uf995\uf9e7\uf9f1"),
     (0xFE40, "\ufa0c\ufa0d\ufa0e\ufa0f\ufa11\ufa13\ufa14\ufa18\ufa1f\ufa20\ufa21\ufa23\ufa24"),
     (0xFE4D, "\ufa27\ufa28\ufa29")]
  ranges :=
    [(0x816C, 0x8175, 0x4E74), (0x8273, 0x827E, 0x4FFF), (0x8291, 0x829B, 0x502F),
     (0x82D9, 0x82ED, 0x508E), (0x8340, 0x8351, 0x50BD), (0x835B, 0x8365, 0x50DB),
     (0x8374, 0x837D, 0x50FC), (0x8388, 0x8395, 0x5113), (0x8396, 0x83B2, 0x5122),
     (0x8491, 0x849A, 0x5273), (0x84BA, 0x84C3, 0x52B4), (0x84DF, 0x84E9, 0x52E5),
     (0x8552, 0x855B, 0x532F), (0x8765, 0x8770, 0x5640), (0x87A2, 0x87B0, 0x5694),
     (0x87B1, 0x87BB, 0x56A4), (0x87C7, 0x87D3, 0x56BD), (0x8840, 0x8849, 0x5712),
     (0x8965, 0x8975, 0x586D), (0x8995, 0x89A6, 0x58AA), (0x89AE, 0x89B8, 0x58C6),
     (0x89BC, 0x89C9, 0x58D6), (0x8A56, 0x8A62, 0x5966), (0x8AAB, 0x8AB6, 0x59ED),
     (0x8AEB, 0x8AF4, 0x5A4B), (0x8B56, 0x8B67, 0x5A80), (0x8B6F, 0x8B7C, 0x5A9C),
     (0x8BB0, 0x8BC6, 0x5AF2), (0x8BC7, 0x8BD2, 0x5B0A), (0x8BD3, 0x8BEC, 0x5B18),
     (0x8D70, 0x8D79, 0x5CF1), (0x8DB6, 0x8DC0, 0x5D4D), (0x8DC4, 0x8DCE, 0x5D5E),
     (0x8DD6, 0x8DE2, 0x5D75), (0x8DE3, 0x8DF8, 0x5D83), (0x8E40, 0x8E55, 0x5DA1),
     (0x8E56, 0x8E62, 0x5DB8), (0x8E6A, 0x8E76, 0x5DCE), (0x8EC5, 0x8ED3, 0x5E63),
     (0x8F4F, 0x8F5A, 0x5EDC), (0x8F90, 0x8F9E, 0x5F41), (0x90E5, 0x90F7, 0x612C),
     (0x9164, 0x9176, 0x6178), (0x9192, 0x919B, 0x61AD), (0x91B1, 0x91C1, 0x61D5),
     (0x91C2, 0x91CF, 0x61E7), (0x93B3, 0x93BC, 0x646E), (0x9448, 0x9460, 0x64E7),
     (0x94B5, 0x94C3, 0x6578), (0x95CA, 0x95E3, 0x66BF), (0x96AB, 0x96B4, 0x67C5),
     (0x9767, 0x9770, 0x6898), (0x97A0, 0x97A9, 0x68E4), (0x97C1, 0x97CC, 0x6913),
     (0x97E7, 0x97F7, 0x6943), (0x9866, 0x986F, 0x699D), (0x989A, 0x98A5, 0x69E1),
     (0x98AA, 0x98B3, 0x69F3), (0x98B5, 0x98BE, 0x6A00), (0x98BF, 0x98CA, 0x6A0B),
     (0x9948, 0x9952, 0x6A66), (0x9983, 0x99F5, 0x6AAD), (0x9A54, 0x9A5F, 0x6B4D),
     (0x9A6A, 0x9A77, 0x6B6B), (0x9C9E, 0x9CA8, 0x6E60), (0x9CAB, 0x9CB9, 0x6E6F),
     (0x9D5D, 0x9D66, 0x6F16), (0x9D87, 0x9D90, 0x6F4E), (0x9DB6, 0x9DC2, 0x6F8F),
     (0x9DCC, 0x9DD6, 0x6FA8), (0x9DEF, 0x9DF9, 0x6FD3), (0x9E48, 0x9E68, 0x6FF0),
     (0x9E80, 0x9E89, 0x702B), (0x9E8D, 0x9E9E, 0x703A), (0x9EA1, 0x9EAE, 0x7050),
     (0x9EAF, 0x9EBA, 0x705F), (0x9ED7, 0x9EE3, 0x709E), (0x9EF1, 0x9EFD, 0x70CB),
     (0x9F55, 0x9F5F, 0x70FE), (0x9F69, 0x9F73, 0x711B), (0x9F81, 0x9F8E, 0x7137),
     (0x9F95, 0x9FA1, 0x714F), (0x9FF0, 0x9FF9, 0x71C4), (0xA040, 0xA049, 0x71D6),
     (0xA055, 0xA05E, 0x71EF), (0xA05F, 0xA06A, 0x71FA), (0xA06B, 0xA07E, 0x7207),
     (0xA082, 0xA08B, 0x721E), (0xA0CB, 0xA0D6, 0x7293), (0xA0D7, 0xA0E2, 0x72A0),
     (0xA2A1, 0xA2AA, 0x2170), (0xA854, 0xA877, 0x2550), (0xA968, 0xA971, 0xFE49),
     (0xAA93, 0xAA9D, 0x7361), (0xAB40, 0xAB4B, 0x7372), (0xAC40, 0xAC4A, 0x73F8),
     (0xAC73, 0xAC7E, 0x7442), (0xAC8A, 0xAC96, 0x7460), (0xAD4E, 0xAD58, 0x7491),
     (0xAD62, 0xAD71, 0x74AA), (0xAD72, 0xAD7E, 0x74BB), (0xAD80, 0xAD89, 0x74C8),
     (0xB094, 0xB09D, 0x76B5), (0xB169, 0xB173, 0x770E), (0xB248, 0xB253, 0x776D),
     (0xB262, 0xB26D, 0x7793), (0xB282, 0xB28E, 0x77C0), (0xB382, 0xB38D, 0x785E),
     (0xB475, 0xB47E, 0x78DA), (0xB546, 0xB54F, 0x7914), (0xB555, 0xB563, 0x7925),
     (0xB647, 0xB652, 0x799B), (0xB653, 0xB65D, 0x79A8), (0xB744, 0xB752, 0x7A24),
     (0xB75F, 0xB768, 0x7A47), (0xB76E, 0xB77E, 0x7A58), (0xB84B, 0xB855, 0x7AB4),
     (0xB856, 0xB860, 0x7AC0), (0xB861, 0xB86A, 0x7ACC), (0xB95D, 0xB967, 0x7B63),
     (0xBA8D, 0xBA99, 0x7C2B), (0xBB40, 0xBB49, 0x7C43), (0xBB4A, 0xBB6E, 0x7C4E),
     (0xBB75, 0xBB7E, 0x7C7E), (0xBC6B, 0xBC78, 0x7CFC), (0xBC80, 0xBC8E, 0x7D11),
     (0xBD40, 0xBD76, 0x7D37), (0xBD80, 0xBDA0, 0x7D78), (0xBE40, 0xBE4C, 0x7D99),
     (0xBE54, 0xBE7E, 0x7DAF), (0xBE80, 0xBEA0, 0x7DDA), (0xBF40, 0xBF7E, 0x7DFB),
     (0xBF8B, 0xBFA0, 0x7E48), (0xC040, 0xC063, 0x7E5E), (0xC064, 0xC07B, 0x7E83),
     (0xC095, 0xC09E, 0x7F46), (0xC281, 0xC28E, 0x805B), (0xC295, 0xC2A0, 0x8072),
     (0xC387, 0xC393, 0x811F), (0xC540, 0xC54E, 0x81D4), (0xC68F, 0xC698, 0x831D),
     (0xC95A, 0xC966, 0x84A2), (0xC991, 0xC99B, 0x84F1), (0xCA61, 0xCA6A, 0x852D),
     (0xCA74, 0xCA7E, 0x854B), (0xCB4A, 0xCB54, 0x8590), (0xCB92, 0xCBA0, 0x85EA),
     (0xCC4A, 0xCC54, 0x8606), (0xCC59, 0xCC68, 0x8617), (0xCC6A, 0xCC77, 0x862A),
     (0xCC80, 0xCC8B, 0x8641), (0xCF75, 0xCF7E, 0x87EF), (0xD040, 0xD04D, 0x8824),
     (0xD24B, 0xD263, 0x8945), (0xD26A, 0xD27D, 0x8967), (0xD286, 0xD2A0, 0x8987),
     (0xD340, 0xD35E, 0x89A2), (0xD38B, 0xD3A0, 0x8A08), (0xD440, 0xD45F, 0x8A1E),
     (0xD469, 0xD47E, 0x8A49), (0xD480, 0xD499, 0x8A5F), (0xD550, 0xD57E, 0x8A94),
     (0xD580, 0xD5A0, 0x8AC3), (0xD640, 0xD662, 0x8AE4), (0xD663, 0xD67E, 0x8B08),
     (0xD682, 0xD6A0, 0x8B27), (0xD740, 0xD75F, 0x8B46), (0xD765, 0xD77E, 0x8B6D),
     (0xD780, 0xD798, 0x8B87), (0xD88C, 0xD8A0, 0x8C99), (0xD940, 0xD97E, 0x8CAE),
     (0xD980, 0xD9A0, 0x8CED), (0xDA40, 0xDA4E, 0x8D0E), (0xDA73, 0xDA7C, 0x8D95),
     (0xDA81, 0xDA8D, 0x8DA4), (0xDB8F, 0xDB9A, 0x8E5A), (0xDC60, 0xDC6B, 0x8E9F),
     (0xDC80, 0xDC8A, 0x8EC3), (0xDC8B, 0xDCA0, 0x8ECF), (0xDD40, 0xDD7E, 0x8EE5),
     (0xDD80, 0xDDA0, 0x8F24), (0xDE40, 0xDE60, 0x8F45), (0xE068, 0xE07B, 0x9105),
     (0xE084, 0xE08E, 0x9124), (0xE180, 0xE18A, 0x91BC), (0xE18E, 0xE197, 0x91D2),
     (0xE240, 0xE27E, 0x91E6), (0xE280, 0xE2A0, 0x9225), (0xE340, 0xE36D, 0x9246),
     (0xE36E, 0xE37E, 0x9275), (0xE388, 0xE3A0, 0x928F), (0xE446, 0xE45E, 0x92AF),
     (0xE45F, 0xE47E, 0x92C9), (0xE480, 0xE4A0, 0x92E9), (0xE540, 0xE573, 0x930A),
     (0xE574, 0xE57E, 0x933F), (0xE580, 0xE59F, 0x934A), (0xE640, 0xE662, 0x936C),
     (0xE663, 0xE67E, 0x9390), (0xE680, 0xE69D, 0x93AC), (0xE748, 0xE77E, 0x93D7),
     (0xE780, 0xE7A0, 0x940E), (0xE840, 0xE84E, 0x942F), (0xE84F, 0xE87A, 0x943F),
     (0xE880, 0xE894, 0x9470), (0xE954, 0xE97E, 0x9580), (0xE980, 0xE9A0, 0x95AB),
     (0xEA40, 0xEA5B, 0x95CC), (0xEA91, 0xEA9D, 0x9678), (0xEB49, 0xEB52, 0x969D),
     (0xEB6D, 0xEB76, 0x96D6), (0xEC57, 0xEC69, 0x973F), (0xED50, 0xED7E, 0x97B5),
     (0xED89, 0xEDA0, 0x97F7), (0xEE40, 0xEE7E, 0x980F), (0xEE80, 0xEEA0, 0x984E),
     (0xEF4C, 0xEF71, 0x98A8), (0xEF82, 0xEFA0, 0x98E9), (0xF047, 0xF063, 0x9911),
     (0xF064, 0xF07E, 0x992F), (0xF080, 0xF089, 0x994A), (0xF08A, 0xF096, 0x9956),
     (0xF142, 0xF14C, 0x999A), (0xF14F, 0xF17E, 0x99A9), (0xF180, 0xF1A0, 0x99D9),
     (0xF240, 0xF27E, 0x99FA), (0xF280, 0xF2A0, 0x9A39), (0xF340, 0xF351, 0x9A5A),
     (0xF44A, 0xF454, 0x9B14), (0xF458, 0xF462, 0x9B24), (0xF480, 0xF4A0, 0x9B5B),
     (0xF540, 0xF57E, 0x9B7C), (0xF580, 0xF5A0, 0x9BBB), (0xF640, 0xF67E, 0x9BDC),
     (0xF680, 0xF6A0, 0x9C1B), (0xF740, 0xF77E, 0x9C3C), (0xF840, 0xF87E, 0x9CE3),
     (0xF880, 0xF8A0, 0x9D22), (0xF940, 0xF97E, 0x9D43), (0xF980, 0xF9A0, 0x9D82),
     (0xFA40, 0xFA7E, 0x9DA3), (0xFA80, 0xFAA0, 0x9DE2), (0xFB40, 0xFB5B, 0x9E03),
     (0xFB74, 0xFB7D, 0x9E74), (0xFD4D, 0xFD57, 0x9F45), (0xFD58, 0xFD7E, 0x9F52),
     (0xFD88, 0xFD93, 0x9F8D)]

/-- The characters of two bytes that GB 18030 adds to GBK. -/
def gb18030Additions : Chart where
  runs :=
    [(0xA2AB, "\ue766\ue767\ue768\ue769\ue76a\ue76b"),
     (0xA2E3, "€\ue76d"),
     (0xA2EF, "\ue76e\ue76f"),
     (0xA2FD, "\ue770\ue771"),
     (0xA5F7, "\ue77d\ue77e\ue77f\ue780\ue781\ue782\ue783\ue784"),
     (0xA6B9, "\ue785\ue786\ue787\ue788\ue789\ue78a\ue78b\ue78c"),
     (0xA6D9, "\ue78d\ue78e\ue78f\ue790\ue791\ue792\ue793"),
     (0xA6EC, "\ue794\ue795"),
     (0xA6F3, "\ue796"),
     (0xA6F6, "\ue797\ue798\ue799\ue79a\ue79b\ue79c\ue79d\ue79e\ue79f"),
     (0xA8BC, "\ue7c7"),
     (0xA8BF, "ǹ"),
     (0xA8C1, "\ue7c9\ue7ca\ue7cb\ue7cc"),
     (0xA958, "\ue7e2"),
     (0xA95B, "\ue7e3"),
     (0xA95D, "\ue7e4\ue7e5\ue7e6"),
     (0xA989, "〾"),
     (0xD7FA, "\ue810\ue811\ue812\ue813\ue814"),
     (0xFE50, "⺁\ue816\ue817\ue818⺄㑳㑇⺈⺋\ue81e㖞㘚㘎⺌⺗㥮㤘\ue826㧏㧟㩳㧐\ue82b\ue82c㭎"),
     (0xFE69, "㱮㳠⺧\ue831\ue832⺪䁖䅟⺮䌷⺳⺶⺷\ue83b䎱䎬⺻䏝䓖䙡䙌\ue843"),
     (0xFE80, "䜣䜩䝼䞍⻊䥇䥺䥽䦂䦃䦅䦆䦟䦛䦷䦶\ue854\ue855䲣䲟䲠䲡䱷䲢䴓䴔䴕䴖䴗䴘䴙䶮\ue864")]
  ranges :=
    [(0xA140, 0xA17E, 0xE4C6), (0xA180, 0xA1A0, 0xE505), (0xA240, 0xA27E, 0xE526),
     (0xA280, 0xA2A0, 0xE565), (0xA340, 0xA37E, 0xE586), (0xA380, 0xA3A0, 0xE5C5),
     (0xA440, 0xA47E, 0xE5E6), (0xA480, 0xA4A0, 0xE625), (0xA4F4, 0xA4FE, 0xE772),
     (0xA540, 0xA57E, 0xE646), (0xA580, 0xA5A0, 0xE685), (0xA640, 0xA67E, 0xE6A6),
     (0xA680, 0xA6A0, 0xE6E5), (0xA740, 0xA77E, 0xE706), (0xA780, 0xA7A0, 0xE745),
     (0xA7C2, 0xA7D0, 0xE7A0), (0xA7F2, 0xA7FE, 0xE7AF), (0xA896, 0xA8A0, 0xE7BC),
     (0xA8EA, 0xA8FE, 0xE7CD), (0xA98A, 0xA995, 0x2FF0), (0xA997, 0xA9A3, 0xE7F4),
     (0xA9F0, 0xA9FE, 0xE801), (0xAAA1, 0xAAFE, 0xE000), (0xABA1, 0xABFE, 0xE05E),
     (0xACA1, 0xACFE, 0xE0BC), (0xADA1, 0xADFE, 0xE11A), (0xAEA1, 0xAEFE, 0xE178),
     (0xAFA1, 0xAFFE, 0xE1D6), (0xF8A1, 0xF8FE, 0xE234), (0xF9A1, 0xF9FE, 0xE292),
     (0xFAA1, 0xFAFE, 0xE2F0), (0xFBA1, 0xFBFE, 0xE34E), (0xFCA1, 0xFCFE, 0xE3AC),
     (0xFDA1, 0xFDFE, 0xE40A), (0xFEA1, 0xFEFE, 0xE468)]

/-- The characters of four bytes of GB 18030 up to `0xFFFF`, in their order: each pair is the place
    of a character and its number, and the characters up to the next pair follow on it. -/
def gb18030Starts : List (Nat × Nat) :=
  [(0, 0x0080), (36, 0x00A5), (38, 0x00A9), (45, 0x00B2), (50, 0x00B8), (81, 0x00D8), (89, 0x00E2),
   (95, 0x00EB), (96, 0x00EE), (100, 0x00F4), (103, 0x00F8), (104, 0x00FB), (105, 0x00FD),
   (109, 0x0102), (126, 0x0114), (133, 0x011C), (148, 0x012C), (172, 0x0145), (175, 0x0149),
   (179, 0x014E), (208, 0x016C), (306, 0x01CF), (307, 0x01D1), (308, 0x01D3), (309, 0x01D5),
   (310, 0x01D7), (311, 0x01D9), (312, 0x01DB), (313, 0x01DD), (341, 0x01FA), (428, 0x0252),
   (443, 0x0262), (544, 0x02C8), (545, 0x02CC), (558, 0x02DA), (741, 0x03A2), (742, 0x03AA),
   (749, 0x03C2), (750, 0x03CA), (805, 0x0402), (819, 0x0450), (820, 0x0452), (7922, 0x2011),
   (7924, 0x2017), (7925, 0x201A), (7927, 0x201E), (7934, 0x2027), (7943, 0x2031), (7944, 0x2034),
   (7945, 0x2036), (7950, 0x203C), (8062, 0x20AD), (8148, 0x2104), (8149, 0x2106), (8152, 0x210A),
   (8164, 0x2117), (8174, 0x2122), (8236, 0x216C), (8240, 0x217A), (8262, 0x2194), (8264, 0x219A),
   (8374, 0x2209), (8380, 0x2210), (8381, 0x2212), (8384, 0x2216), (8388, 0x221B), (8390, 0x2221),
   (8392, 0x2224), (8393, 0x2226), (8394, 0x222C), (8396, 0x222F), (8401, 0x2238), (8406, 0x223E),
   (8416, 0x2249), (8419, 0x224D), (8424, 0x2253), (8437, 0x2262), (8439, 0x2268), (8445, 0x2270),
   (8482, 0x2296), (8485, 0x229A), (8496, 0x22A6), (8521, 0x22C0), (8603, 0x2313), (8936, 0x246A),
   (8946, 0x249C), (9046, 0x254C), (9050, 0x2574), (9063, 0x2590), (9066, 0x2596), (9076, 0x25A2),
   (9092, 0x25B4), (9100, 0x25BE), (9108, 0x25C8), (9111, 0x25CC), (9113, 0x25D0), (9131, 0x25E6),
   (9162, 0x2607), (9164, 0x260A), (9218, 0x2641), (9219, 0x2643), (11329, 0x2E82),
   (11331, 0x2E85), (11334, 0x2E89), (11336, 0x2E8D), (11346, 0x2E98), (11361, 0x2EA8),
   (11363, 0x2EAB), (11366, 0x2EAF), (11370, 0x2EB4), (11372, 0x2EB8), (11375, 0x2EBC),
   (11389, 0x2ECB), (11682, 0x2FFC), (11686, 0x3004), (11687, 0x3018), (11692, 0x301F),
   (11694, 0x302A), (11714, 0x303F), (11716, 0x3094), (11723, 0x309F), (11725, 0x30F7),
   (11730, 0x30FF), (11736, 0x312A), (11982, 0x322A), (11989, 0x3232), (12102, 0x32A4),
   (12336, 0x3390), (12348, 0x339F), (12350, 0x33A2), (12384, 0x33C5), (12393, 0x33CF),
   (12395, 0x33D3), (12397, 0x33D6), (12510, 0x3448), (12553, 0x3474), (12851, 0x359F),
   (12962, 0x360F), (12973, 0x361B), (13738, 0x3919), (13823, 0x396F), (13919, 0x39D1),
   (13933, 0x39E0), (14080, 0x3A74), (14298, 0x3B4F), (14585, 0x3C6F), (14698, 0x3CE1),
   (15583, 0x4057), (15847, 0x4160), (16318, 0x4338), (16434, 0x43AD), (16438, 0x43B2),
   (16481, 0x43DE), (16729, 0x44D7), (17102, 0x464D), (17122, 0x4662), (17315, 0x4724),
   (17320, 0x472A), (17402, 0x477D), (17418, 0x478E), (17859, 0x4948), (17909, 0x497B),
   (17911, 0x497E), (17915, 0x4984), (17916, 0x4987), (17936, 0x499C), (17939, 0x49A0),
   (17961, 0x49B8), (18664, 0x4C78), (18703, 0x4CA4), (18814, 0x4D1A), (18962, 0x4DAF),
   (19043, 0x9FA6), (33469, 0xE76C), (33470, 0xE7C8), (33471, 0xE7E7), (33484, 0xE815),
   (33485, 0xE819), (33490, 0xE81F), (33497, 0xE827), (33501, 0xE82D), (33505, 0xE833),
   (33513, 0xE83C), (33520, 0xE844), (33536, 0xE856), (33550, 0xE865), (37845, 0xF92D),
   (37921, 0xF97A), (37948, 0xF996), (38029, 0xF9E8), (38038, 0xF9F2), (38064, 0xFA10),
   (38065, 0xFA12), (38066, 0xFA15), (38069, 0xFA19), (38075, 0xFA22), (38076, 0xFA25),
   (38078, 0xFA2A), (39108, 0xFE32), (39109, 0xFE45), (39113, 0xFE53), (39114, 0xFE58),
   (39115, 0xFE67), (39116, 0xFE6C), (39265, 0xFF5F), (39394, 0xFFE6)]

end OpenerPolicy.Text
